import Runbook.Proofs.Doubling
/-! Capturing the output of an action changes nothing but where the output goes. The action is run
as it is, and with a control file that lacks the entry for its assignment: the two runs do the same,
and the text that becomes the value of the variable is the one that the other run says. -/
namespace Runbook

open Course

/-- What an invocation on its own is compared without: repetitions in the background, the action
itself once more, and one that is named like the entry for its assignment. Other control files that
commands run are not meant. -/
def Event.Unsettles (action : String) (e : Event) : Prop :=
  ∃ d, e.what = .invoked d ∧ (∀ c, .command c ∉ e.layers) ∧
    (d.repeatEvery.bind Text.nonBlank ≠ none ∨ d.name = ControlFile.assignEntry action ∨
      d.name = action ∧ e.layers ≠ [])

theorem Event.Strays.unsettles {action : String} {e : Event} (h : e.Strays (some action))
    (level : Level) : (e.under (.action level)).Unsettles action := by
  obtain ⟨_, d, ⟨⟩, what, own, strays⟩ := h
  refine ⟨d, what, fun c member => ?_, ?_⟩
  · rcases List.mem_cons.mp member with same | member
    · cases same
    · exact own c member
  · rcases strays with named | named | every
    · exact .inr (.inr ⟨named, List.cons_ne_nil _ _⟩)
    · exact .inr (.inl named)
    · exact .inl every

section Moved

variable {perform : Performer} {e : Engine} {call : Call} {frame : Frame} {w : World} {x : String}

def CapturedBeside (x action said : String) (r r₀ : Answer × Frame) : Prop :=
  ∃ answer left, r = (answer, Action.captureInto x said answer left) ∧
    r₀ = (answer, left.lacking (some action))

/-- What is carried out does not depend on what the action assigns. -/
theorem carryOut_withoutAssign (d : Descriptor) (assign : Option String) :
    Action.carryOut perform e call { d with assign } = Action.carryOut perform e call d := rfl

/-- The body of the action: what one run captures, the other one says to its caller. -/
theorem muted_capturing (performs : Performer.Doubles perform) (runs : Runner.Doubles e.run)
    (isStream : ∀ path, call.sink ≠ .file path) (d : Descriptor) (x : String) (frame : Frame)
    {w₀ : World} (same : w.Same w₀) :
    Twin (Event.Strays (some call.action)) none (some call.sink) (CapturedBeside x call.action) ""
      w (Action.capturing x (Action.carryOut perform e { call with sink := .text } d) frame w)
      w₀ (Action.carryOut perform e call d (frame.lacking (some call.action)) w₀) := by
  have apart : ∀ a, some call.action = some a → call.action ≠ ControlFile.assignEntry a := by
    rintro _ ⟨⟩
    exact ControlFile.ne_assignEntry _
  have bodies : Body.Doubles (Event.Strays (some call.action)) (some call.action) call.sink
      (Action.carryOut perform e { call with sink := .text } d) (Action.carryOut perform e call d) :=
    @doubles_carryOut _ _ _ _ _ { call with sink := .text } performs runs (.stream isStream) apart d
  have inside := bodies frame { w with text := "" } w₀
    ((World.same_withText w "").symm.trans same) ""
  rw [Action.capturing_eq, ← Course.map_id (Action.carryOut perform e call d _ w₀)]
  refine (inside.muted rfl w.text).map fun said r r₀ related => ?_
  obtain ⟨⟨answer, left⟩, text⟩ := r
  obtain ⟨related, rfl⟩ := related
  exact ⟨answer, left, rfl, related⟩

/-- What the action captures, the invocation without the assignment says to its caller. -/
theorem muted_invoke (performs : Performer.Doubles perform) (runs : Runner.Doubles e.run)
    (named : (Descriptor.read frame.control call.action frame.vars).assignName? = some x)
    (noFile : (Descriptor.read frame.control call.action frame.vars).outputPath? = none)
    (isStream : ∀ path, call.sink ≠ .file path) :
    Twin (Event.Unsettles call.action) none (some call.sink) (CapturedBeside x call.action) ""
      w (Action.invoke perform e call frame w)
      w (Action.invoke perform e call (frame.lacking (some call.action)) w) := by
  have again : Descriptor.read (frame.lacking (some call.action)).control call.action
      (frame.lacking (some call.action)).vars =
        { Descriptor.read frame.control call.action frame.vars with assign := none } :=
    Descriptor.read_lacking_self
  generalize read : Descriptor.read frame.control call.action frame.vars = d at named noFile again
  by_cases once : d.repeatEvery.bind Text.nonBlank = none
  · simp only [Action.invoke, read, again]
    refine .note (both_count (.refl w) _ _ "actions.executed") ?_
    generalize w.count "actions.executed" = w
    have captured : Outlet.resolve d call.sink frame w = .done (some (.capture x), frame) w := by
      simp only [Outlet.resolve, noFile, named]
    have told : Outlet.resolve { d with assign := none } call.sink
        (frame.lacking (some call.action)) w =
          .done (some .caller, frame.lacking (some call.action)) w := by
      have noFile : Descriptor.outputPath? { d with assign := none } = none := noFile
      simp only [Outlet.resolve, noFile, Descriptor.assignName?, Option.bind_none]
    simp only [bind_done, captured, told, Action.invokeThrough, Action.through,
      carryOut_withoutAssign]
    have inside := (muted_capturing performs runs isStream d x frame (.refl w)).under
      (fun e strays => strays.unsettles ⟨d, .capture x⟩)
      (fun e strays => strays.unsettles ⟨{ d with assign := none }, .caller⟩)
    refine inside.bind fun said r r₀ s s₀ related same => ?_
    have ended : ∀ r r₀, CapturedBeside x call.action said r r₀ →
        Twin (Event.Unsettles call.action) none (some call.sink) (CapturedBeside x call.action) said
          s (.done r s) s₀ (.done r₀ s₀) :=
      fun r r₀ related => .done (both_nothing same _ _ rfl rfl) (by simpa using related)
    obtain ⟨answer, left, rfl, rfl⟩ := related
    have once₀ : (Descriptor.repeatEvery { d with assign := none }).bind Text.nonBlank = none := once
    rcases answer with f | _ | _
    · exact ended _ _ ⟨.error f, left, rfl, rfl⟩
    · exact ended _ _ ⟨.ok false, left, rfl, rfl⟩
    · simp only [schedule_eq_self once, schedule_eq_self once₀]
      exact ended _ _ ⟨.ok true, left, rfl, rfl⟩
  · exact .astray ⟨d, by simp [read], by simp, .inl once⟩ ⟨_, rfl, by simp, .inl (again ▸ once)⟩

theorem muted_runner (performs : Performer.Doubles perform) (bound : Nat)
    (named : (Descriptor.read frame.control call.action frame.vars).assignName? = some x)
    (noFile : (Descriptor.read frame.control call.action frame.vars).outputPath? = none)
    (isStream : ∀ path, call.sink ≠ .file path) :
    Twin (Event.Unsettles call.action) none (some call.sink) (CapturedBeside x call.action) ""
      w (Action.runner perform bound call frame w)
      w (Action.runner perform bound call (frame.lacking (some call.action)) w) := by
  cases bound with
  | zero => exact .stuck
  | succ bound => exact muted_invoke performs (doubles_runner performs bound) named noFile isStream

end Moved

/-- A run that captures its output, and one that says it to its caller: they come to the same but
for the streams, the first one is silent, and where it succeeds the variable holds what the other one
has said. -/
structure Redirected (x : String) (sink : Sink) (w : World) (path : List (Step World))
    (r : Answer × Frame) (w' : World) (path₀ : List (Step World)) (r₀ : Answer × Frame)
    (w₀' : World) : Prop where
  answer : r₀.1 = r.1
  world : w'.Same w₀'
  opened : r₀.2.opened = r.2.opened
  silent : Appends (some sink) w path w' ""
  value : ∃ text, Appends (some sink) w path₀ w₀' text ∧
    r.2.vars = match r.1 with
      | .ok true => r₀.2.vars.set x (Text.trimEnd text)
      | _ => r₀.2.vars

theorem CapturedBeside.redirected {x action text : String} {sink : Sink} {w w' w₀' : World}
    {path path₀ : List (Step World)} {r r₀ : Answer × Frame}
    (h : CapturedBeside x action text r r₀) (same : w'.Same w₀')
    (silent : Appends none w path w' text) (said : Appends (some sink) w path₀ w₀' text) :
    Redirected x sink w path r w' path₀ r₀ w₀' := by
  obtain ⟨answer, left, rfl, rfl⟩ := h
  refine ⟨rfl, same, ?_, silent.mute _, text, said, ?_⟩
  all_goals
    match answer with
    | .ok true | .ok false | .error _ => rfl

/-- Capturing is transparent. An action with a variable for its output, whose caller writes to a
stream, is run with its control file and with the control file that lacks the entry for the
assignment. Where one of the two runs comes to its end, the other one does as well, as long as it
finds the same in its waits; the answers, the worlds and the files that have been opened are the
same; the action that captures has written nothing to its caller; and the variables are the same but
for the one that holds what the other run has written. -/
theorem capture_only_redirects (bound : Nat) (call : Call) (frame : Frame) (w : World) (x : String)
    (named : (Descriptor.read frame.control call.action frame.vars).assignName? = some x)
    (noFile : (Descriptor.read frame.control call.action frame.vars).outputPath? = none)
    (isStream : ∀ path, call.sink ≠ .file path) :
    (∀ path r w', (Action.runner Command.perform bound call frame w).Ends path r w' →
      (∀ e ∈ events path, ¬ e.Unsettles call.action) →
      (Action.runner Command.perform bound call (frame.lacking (some call.action)) w).Follows path
        (Redirected x call.sink w path r w')) ∧
    (∀ path₀ r₀ w₀',
      (Action.runner Command.perform bound call (frame.lacking (some call.action)) w).Ends
        path₀ r₀ w₀' →
      (∀ e ∈ events path₀, ¬ e.Unsettles call.action) →
      (Action.runner Command.perform bound call frame w).Follows path₀
        fun path r w' => Redirected x call.sink w path r w' path₀ r₀ w₀') := by
  have twin := @muted_runner _ _ _ w _ doubles_perform bound named noFile isStream
  refine ⟨fun path r w' ends fine => (twin.follows ends fine).weaken ?_,
    fun path₀ r₀ w₀' ends fine => (twin.symm.follows ends fine).weaken ?_⟩
  · rintro path₀ r₀ w₀' ⟨text, related, same, silent, said⟩
    exact CapturedBeside.redirected (by simpa using related) same silent said
  · rintro path r w' ⟨text, related, same, said, silent⟩
    exact CapturedBeside.redirected (by simpa using related) same.symm silent said

instance (action : String) (e : Event) : Decidable (e.Unsettles action) :=
  match what : e.what with
  | .invoked d =>
    decidable_of_iff (e.layers.all (fun | .command _ => false | _ => true) = true ∧
        (d.repeatEvery.bind Text.nonBlank ≠ none ∨ d.name = ControlFile.assignEntry action ∨
          d.name = action ∧ e.layers ≠ [])) <| by
      have own : (e.layers.all (fun | .command _ => false | _ => true) = true) ↔
          ∀ c, .command c ∉ e.layers := by
        rw [List.all_eq_true]
        refine ⟨fun all c member => by simpa using all _ member, fun all layer member => ?_⟩
        cases layer with
        | command c => exact absurd member (all c)
        | action | round => rfl
      simp [Event.Unsettles, what, own]
  | .turned _ | .started .. | .raised _ | .wrote .. | .shutDown | .finished _ =>
    isFalse <| by simp [Event.Unsettles, what]

def greeting : ControlFile :=
  .ofList [("a", "b"), ("a.assign", "x"), ("b", "echo"), ("b.param.1", "hi")]

def greetingToFile : ControlFile :=
  .ofList [("a", "b"), ("a.assign", "x"), ("b", "echo"), ("b.param.1", "hi"),
    ("b.outputFile", "f")]

def greetingWorld : World :=
  .fresh Command.withLog ⟨[], []⟩ ⟨0, 0⟩ ((FileTree.bare ["work"]).addNode ["work", "f"] (.file []))

/-- Whether a course that does not wait succeeds, without what a capture is compared without. -/
def Course.settles (c : Course World (Answer × Frame)) (action : String) : Bool :=
  c.direct?.any fun r =>
    decide (r.2.1.1.toOption = some true) && (events r.1).all fun e => !decide (e.Unsettles action)

theorem Course.settles_iff {c : Course World (Answer × Frame)} {action : String} :
    c.settles action = true ↔ ∃ path r w', c.direct? = some (path, r, w') ∧
      r.1.toOption = some true ∧ ∀ e ∈ events path, ¬ e.Unsettles action := by
  simp [settles, Option.any_eq_true]

/-- Where such a course comes to its end, with the files that are left there. -/
theorem Course.settles_files {c : Course World (Answer × Frame)} {action : String} {t : FileTree}
    (settles : c.settles action = true) (files : c.direct?.map (·.2.2.files) = some t) :
    ∃ path r w', c.Ends path r w' ∧ r.1.toOption = some true ∧
      (∀ e ∈ events path, ¬ e.Unsettles action) ∧ w'.files = t := by
  obtain ⟨path, r, w', ran, success, fine⟩ := settles_iff.mp settles
  exact ⟨path, r, w', ends_of_direct? ran, success, fine, by simpa [ran] using files⟩

theorem capture_only_redirects_greeting :
    ∃ path r w', (Action.runner Command.perform 5 ⟨"a", .console, false⟩ (.fresh greeting .empty)
        greetingWorld).Ends path r w' ∧ r.1.toOption = some true ∧
      (Action.runner Command.perform 5 ⟨"a", .console, false⟩
        ((Frame.fresh greeting .empty).lacking (some "a")) greetingWorld).Follows path
          (Redirected "x" .console greetingWorld path r w') := by
  obtain ⟨path, r, w', ran, success, fine⟩ := Course.settles_iff.mp (by decide +kernel :
    (Action.runner Command.perform 5 ⟨"a", .console, false⟩ (.fresh greeting .empty)
      greetingWorld).settles "a" = true)
  have transparent := capture_only_redirects 5 ⟨"a", .console, false⟩ (.fresh greeting .empty)
    greetingWorld "x" (by decide +kernel) (by decide +kernel) (by simp)
  exact ⟨path, r, w', ends_of_direct? ran, success,
    transparent.1 path r w' (ends_of_direct? ran) fine⟩

def greetingInto (control : ControlFile) : Course World (Answer × Frame) :=
  Action.runner Command.perform 5 ⟨"a", .file "f", false⟩ ⟨control, .empty, ["f"]⟩ greetingWorld

/-- A caller that writes to a file is no such caller. An action within the capture may write to the
same file; and where none does, what the run without the assignment says is in that file, while the
run that captures leaves it empty. -/
theorem capture_into_file :
    ((Descriptor.read greetingToFile "a" .empty).assignName? = some "x" ∧
      (Descriptor.read greetingToFile "a" .empty).outputPath? = none ∧
      greetingWorld.files.read "f" = .ok [] ∧
      ∃ path r w', (greetingInto greetingToFile).Ends path r w' ∧ r.1.toOption = some true ∧
        (∀ e ∈ events path, ¬ e.Unsettles "a") ∧
        w'.files.read "f" = .ok (Text.toBytes "hi\n")) ∧
    (Descriptor.read greeting "a" .empty).assignName? = some "x" ∧
      (Descriptor.read greeting "a" .empty).outputPath? = none ∧
      (∃ path r w', (greetingInto greeting).Ends path r w' ∧ r.1.toOption = some true ∧
        (∀ e ∈ events path, ¬ e.Unsettles "a") ∧ w'.files.read "f" = .ok []) ∧
      ∃ path r w', (greetingInto (greeting.lacking (some "a"))).Ends path r w' ∧
        r.1.toOption = some true ∧ (∀ e ∈ events path, ¬ e.Unsettles "a") ∧
        w'.files.read "f" = .ok (Text.toBytes "hi\n") := by
  have before : greetingWorld.files.read "f" = .ok [] := by with_unfolding_all rfl
  have after : (greetingWorld.files.append "f" (Text.toBytes "hi\n")).read "f" =
      .ok (Text.toBytes "hi\n") := by
    with_unfolding_all rfl
  obtain ⟨path, r, w', shared, success, fine, files⟩ :=
    Course.settles_files (by decide +kernel : (greetingInto greetingToFile).settles "a" = true)
      (t := greetingWorld.files.append "f" (Text.toBytes "hi\n")) (by with_unfolding_all rfl)
  obtain ⟨path₁, r₁, w₁, silent, success₁, fine₁, files₁⟩ :=
    Course.settles_files (by decide +kernel : (greetingInto greeting).settles "a" = true)
      (t := greetingWorld.files) (by with_unfolding_all rfl)
  obtain ⟨path₂, r₂, w₂, heard, success₂, fine₂, files₂⟩ :=
    Course.settles_files
      (by decide +kernel : (greetingInto (greeting.lacking (some "a"))).settles "a" = true)
      (t := greetingWorld.files.append "f" (Text.toBytes "hi\n")) (by with_unfolding_all rfl)
  exact ⟨⟨by decide +kernel, by decide +kernel, before, path, r, w', shared, success, fine,
    files ▸ after⟩, by decide +kernel, by decide +kernel,
    ⟨path₁, r₁, w₁, silent, success₁, fine₁, files₁ ▸ before⟩,
    ⟨path₂, r₂, w₂, heard, success₂, fine₂, files₂ ▸ after⟩⟩

end Runbook
