import Runbook.Command.Perform
import Runbook.Proofs.Inversion
import Runbook.Proofs.Lacking
import Runbook.Proofs.Twins
/-! Runs of which one writes to the text what the other one writes to a stream, and of which the
second may lack the entry that assigns the output of an action. They do the same, part by part, up
to where that entry would be read. -/
namespace Runbook

open Course

/-- Where two runs write: the one of them to the text what the other one writes to a stream, and
both to the same files. -/
inductive Paired (sink : Sink) : Sink → Sink → Prop
  | stream (isStream : ∀ path, sink ≠ .file path) : Paired sink .text sink
  | file (path : String) : Paired sink (.file path) (.file path)

/-- Two courses that do the same, where one of them writes to the text what the other one writes to
a sink, and come to related results. -/
def Course.Doubles {α β : Type} (off : Event → Prop) (sink : Sink) (R : α → β → Prop) (w : World)
    (c : Course World α) (w₀ : World) (d : Course World β) : Prop :=
  ∀ said, Twin off (some .text) (some sink) (fun _ => R) said w c w₀ d

section Parts

variable {α β γ δ : Type} {off : Event → Prop} {sink σ σ₀ : Sink} {R : α → β → Prop}
  {Q : γ → δ → Prop} {w w₀ : World} {c : Course World α} {d : Course World β}

theorem Course.Doubles.bind (h : Doubles off sink R w c w₀ d) {f : α → World → Course World γ}
    {g : β → World → Course World δ}
    (later : ∀ a b s s₀, R a b → s.Same s₀ → Doubles off sink Q s (f a s) s₀ (g b s₀)) :
    Doubles off sink Q w (c.bind f) w₀ (d.bind g) := fun said =>
  (h said).bind fun said a b s s₀ related same => later a b s s₀ related same said

theorem Course.Doubles.map (h : Doubles off sink R w c w₀ d) {f : α → γ} {g : β → δ}
    (related : ∀ a b, R a b → Q (f a) (g b)) : Doubles off sink Q w (c.map f) w₀ (d.map g) :=
  fun said => (h said).map fun _ => related

theorem Course.Doubles.under {off' : Event → Prop} {layer : Layer}
    (h : Doubles off sink R w c w₀ d) (kept : ∀ e, off e → off' (e.under layer)) :
    Doubles off' sink R w (c.under layer) w₀ (d.under layer) := fun said =>
  (h said).under kept kept

/-- What has changed before without a word. -/
theorem Course.Doubles.changed {s s₀ : World} (h : Doubles off sink R s c s₀ d)
    (same : s.Same s₀) (quiet : s.streams = w.streams) (quiet₀ : s₀.streams = w₀.streams) :
    Doubles off sink R w c w₀ d := fun said =>
  .before (both_nothing same _ _ quiet quiet₀) (by simpa using h said)

theorem doubles_done {a : α} {b : β} (same : w.Same w₀) (related : R a b) :
    Doubles off sink R w (done a w) w₀ (done b w₀) := fun _ =>
  .done (both_nothing same _ _ rfl rfl) related

theorem doubles_tell (same : w.Same w₀) (what : Happening) :
    Doubles off sink Eq w (w.tell what) w₀ (w₀.tell what) := fun _ =>
  .note (both_nothing same _ _ rfl rfl) (doubles_done same rfl _)

theorem Paired.write (paired : Paired sink σ σ₀) (same : w.Same w₀) (text : String) :
    ∃ u, Both (some .text) (some sink) u w (w.write σ text) w₀ (w₀.write σ₀ text) := by
  obtain ⟨_, _, rfl⟩ := same
  cases paired with
  | stream isStream =>
    refine ⟨text, ?_, rfl, rfl⟩
    cases sink with
    | text | console => exact ⟨_, _, rfl⟩
    | file path => exact absurd rfl (isStream path)
  | file path => exact ⟨"", both_nothing ⟨_, _, rfl⟩ _ _ rfl rfl⟩

theorem doubles_say (paired : Paired sink σ σ₀) (same : w.Same w₀) (text : String) :
    Doubles off sink Eq w (w.say σ text) w₀ (w₀.say σ₀ text) := fun _ =>
  have ⟨_, both⟩ := paired.write same text
  .note both (doubles_done both.same rfl _)

theorem doubles_sayLine (paired : Paired sink σ σ₀) (same : w.Same w₀) (line : String) :
    Doubles off sink Eq w (w.sayLine σ line) w₀ (w₀.sayLine σ₀ line) := doubles_say paired same _

theorem doubles_sayLines (paired : Paired sink σ σ₀) (same : w.Same w₀) (lines : List String) :
    Doubles off sink Eq w (w.sayLines σ lines) w₀ (w₀.sayLines σ₀ lines) := by
  induction lines generalizing w w₀ with
  | nil => exact doubles_done same rfl
  | cons line rest ih =>
    exact (doubles_sayLine paired same line).bind fun _ _ _ _ _ same => ih same

theorem doubles_await (same : w.Same w₀) (reason : Wait) :
    Doubles off sink Eq w (w.await reason) w₀ (w₀.await reason) := fun _ =>
  .wait (both_nothing same.settle _ _ rfl rfl) fun _ _ same => doubles_done same rfl _

theorem doubles_postpone (same : w.Same w₀) (time? : Option TimeOfDay) :
    Doubles off sink Eq w (w.postpone time?) w₀ (w₀.postpone time?) := by
  obtain ⟨text, console, rfl⟩ := id same
  unfold World.postpone World.pause
  split
  · split
    · exact doubles_done same rfl
    · exact doubles_await same _
  · exact doubles_done same rfl

end Parts

def Frame.lacking (frame : Frame) (gone : Option String) : Frame :=
  { frame with control := frame.control.lacking gone }

def Alongside {α : Type} (gone : Option String) (r r₀ : α × Frame) : Prop :=
  r₀ = (r.1, r.2.lacking gone)

inductive Rounds (gone : Option String) : Round Answer Frame → Round Answer Frame → Prop
  | next (frame : Frame) : Rounds gone (.next frame) (.next (frame.lacking gone))
  | stop (answer : Answer) (frame : Frame) :
      Rounds gone (.stop answer frame) (.stop answer (frame.lacking gone))

def Body.Doubles (off : Event → Prop) (gone : Option String) (sink : Sink) (body body₀ : Body) :
    Prop :=
  ∀ frame w w₀, w.Same w₀ →
    Course.Doubles off sink (Alongside gone) w (body frame w) w₀ (body₀ (frame.lacking gone) w₀)

/-- What is invoked where the runs go apart: the action whose entry is missing, one that is named
like the entry, or one that goes on in the background. Other control files that commands run are
not meant. -/
def Event.Strays (gone : Option String) (e : Event) : Prop :=
  ∃ a d, gone = some a ∧ e.what = .invoked d ∧ (∀ c, .command c ∉ e.layers) ∧
    (d.name = a ∨ d.name = ControlFile.assignEntry a ∨ d.repeatEvery.bind Text.nonBlank ≠ none)

theorem Event.Strays.under {gone : Option String} {e : Event} (h : e.Strays gone) {layer : Layer}
    (part : ∀ c, layer ≠ .command c) : (e.under layer).Strays gone := by
  obtain ⟨a, d, named, what, own, strays⟩ := h
  refine ⟨a, d, named, what, fun c member => ?_, strays⟩
  rcases List.mem_cons.mp member with same | member
  · exact part c same.symm
  · exact own c member

theorem not_strays_none (e : Event) : ¬ e.Strays none := by
  rintro ⟨_, _, impossible, _⟩
  cases impossible

section Rounds

variable {off : Event → Prop} {gone : Option String} {sink σ₀ : Sink} {call : Call} {frame : Frame}
  {w w₀ : World}

theorem doubles_describe (paired : Paired sink call.sink σ₀) (same : w.Same w₀) {m : Modifier}
    (other : m ≠ .assign) (frame : Frame) :
    Doubles off sink Eq w (Iteration.describe m call frame w) w₀
      (Iteration.describe m { call with sink := σ₀ } (frame.lacking gone) w₀) := by
  simp only [Iteration.describe, Frame.lacking,
    ControlFile.modifier?_lacking fun assigns => absurd assigns other]
  split
  · exact doubles_sayLine paired same _
  · exact doubles_done same rfl

theorem doubles_warn (paired : Paired sink call.sink σ₀) (same : w.Same w₀) (plan : Plan) :
    Doubles off sink Eq w (Action.warn call plan w) w₀
      (Action.warn { call with sink := σ₀ } plan w₀) := by
  unfold Action.warn
  split
  · exact doubles_sayLine paired same _
  · exact doubles_done same rfl

theorem doubles_conclude (paired : Paired sink call.sink σ₀) (same : w.Same w₀) (p : Policy)
    (answer : Answer) (frame : Frame) :
    Doubles off sink (Rounds gone) w (Iteration.conclude call p answer frame w) w₀
      (Iteration.conclude { call with sink := σ₀ } p answer (frame.lacking gone) w₀) := by
  match answer with
  | .ok true =>
    exact (doubles_describe paired same (by decide) frame).map fun _ _ _ => .next frame
  | .ok false => exact doubles_done same (.stop _ frame)
  | .error f =>
    simp only [Iteration.conclude, Iteration.settle]
    cases p.classify f call.throws with
    | terminate | propagate => exact doubles_done same (.stop _ frame)
    | ignore => exact doubles_done same (.next frame)
    | report => exact (doubles_sayLine paired same _).map fun _ _ _ => .stop _ frame

theorem lacking_bind (loop? : Option LoopVariable) (it : Iterations) (index : Nat)
    (frame : Frame) : Iteration.bind loop? it index (frame.lacking gone) =
      (Iteration.bind loop? it index frame).lacking gone := by
  cases loop? <;> rfl

theorem lacking_restore (loop? : Option LoopVariable) (frame : Frame) :
    Iteration.restore loop? (frame.lacking gone) = (Iteration.restore loop? frame).lacking gone := by
  cases loop? <;> rfl

variable {body body₀ : Body} {plan : Plan} {loop? : Option LoopVariable}

theorem doubles_round (part : ∀ e index, off e → off (e.under (.round index)))
    (paired : Paired sink call.sink σ₀) (same : w.Same w₀)
    (h : Body.Doubles off gone sink body body₀) (index : Nat) (frame : Frame) :
    Doubles off sink (Rounds gone) w (Iteration.round call plan loop? body index frame w) w₀
      (Iteration.round { call with sink := σ₀ } plan loop? body₀ index (frame.lacking gone) w₀) := by
  refine (doubles_tell same _).bind fun _ _ w w₀ _ same => ?_
  obtain ⟨text, console, rfl⟩ := id same
  simp only
  split
  · exact (doubles_sayLine paired same _).map fun _ _ _ => .stop _ frame
  · rw [lacking_bind]
    refine (doubles_describe paired same (by decide) _).bind fun _ _ w w₀ _ same => ?_
    refine ((h _ w w₀ same).under (part · index)).bind fun r r₀ w w₀ related same => ?_
    obtain rfl := related
    exact doubles_conclude paired same plan.policy r.1 r.2

theorem doubles_loop (part : ∀ e index, off e → off (e.under (.round index)))
    (paired : Paired sink call.sink σ₀) (same : w.Same w₀)
    (h : Body.Doubles off gone sink body body₀) (has : Nat → Bool) (limit index : Nat)
    (frame : Frame) :
    Doubles off sink (Alongside gone) w
      (loop has (Iteration.round call plan loop? body) (.ok true) limit index frame w) w₀
      (loop has (Iteration.round { call with sink := σ₀ } plan loop? body₀) (.ok true) limit index
        (frame.lacking gone) w₀) := by
  induction limit generalizing index frame w w₀ with
  | zero => exact fun _ => .stuck
  | succ limit ih =>
    by_cases one : has index = true
    · rw [loop_succ one, loop_succ one]
      refine (doubles_round part paired same h index frame).bind fun r r₀ w w₀ related same => ?_
      cases related with
      | next frame => exact ih same (index + 1) frame
      | stop answer frame => exact doubles_done same rfl
    · simp only [loop, one]
      exact doubles_done same rfl

theorem doubles_all (part : ∀ e index, off e → off (e.under (.round index)))
    (paired : Paired sink call.sink σ₀) (same : w.Same w₀)
    (h : Body.Doubles off gone sink body body₀) (loopName : String) (limit : Nat) (frame : Frame) :
    Doubles off sink (Alongside gone) w (Iteration.all call loopName plan body limit frame w) w₀
      (Iteration.all { call with sink := σ₀ } loopName plan body₀ limit (frame.lacking gone) w₀) := by
  refine (doubles_loop part paired same h _ limit 0 frame).bind fun r r₀ w w₀ related same => ?_
  obtain rfl := related
  refine (doubles_tell same _).map fun _ _ _ => ?_
  exact congrArg (Prod.mk r.1) (lacking_restore _ r.2)

end Rounds

def Runner.Doubles (run : Runner) : Prop :=
  ∀ gone sink σ₀ call frame w w₀, Paired sink call.sink σ₀ → w.Same w₀ →
    Course.Doubles (Event.Strays gone) sink (Alongside gone) w (run call frame w) w₀
      (run { call with sink := σ₀ } (frame.lacking gone) w₀)

/-- Commands do the same wherever they write. -/
def Performer.Doubles (perform : Performer) : Prop :=
  ∀ e, Runner.Doubles e.run → ∀ sink σ σ₀ c args w w₀, Paired sink σ σ₀ → w.Same w₀ →
    Course.Doubles (Event.Strays none) sink Eq w (perform e c args σ w) w₀ (perform e c args σ₀ w₀)

section Actions

variable {perform : Performer} {e : Engine} {gone : Option String} {sink σ₀ : Sink} {call : Call}
  {w w₀ : World}

theorem doubles_block (runs : Runner.Doubles e.run) (paired : Paired sink call.sink σ₀)
    (same : w.Same w₀) (names : List String) (frame : Frame) :
    Doubles (Event.Strays gone) sink (Alongside gone) w (Action.block e.run call names frame w) w₀
      (Action.block e.run { call with sink := σ₀ } names (frame.lacking gone) w₀) := by
  induction names generalizing frame w w₀ with
  | nil => exact doubles_done same rfl
  | cons name names ih =>
    refine (runs gone sink σ₀ { call with action := name } frame w w₀ paired same).bind
      fun r r₀ w w₀ related same => ?_
    obtain rfl := related
    obtain ⟨answer, frame⟩ := r
    match answer with
    | .ok true => exact ih same frame
    | .ok false | .error _ => exact doubles_done same rfl

theorem doubles_command (performs : Performer.Doubles perform) (runs : Runner.Doubles e.run)
    {σ : Sink} (paired : Paired sink σ σ₀) (same : w.Same w₀) (c : Command) (args : List String) :
    Doubles (Event.Strays gone) sink Eq w (Action.command perform e c args σ w) w₀
      (Action.command perform e c args σ₀ w₀) := by
  refine (doubles_tell same _).bind fun _ _ w w₀ _ same => ?_
  refine ((performs e runs sink σ σ₀ c args w w₀ paired same).under
    fun e strays => absurd strays (not_strays_none e)).bind fun answer answer₀ w w₀ equal same => ?_
  obtain rfl := equal
  match answer with
  | .ok _ => exact doubles_done same rfl
  | .error _ => exact (doubles_tell same _).map fun _ _ _ => rfl

theorem doubles_dispatch (performs : Performer.Doubles perform) (runs : Runner.Doubles e.run)
    (paired : Paired sink call.sink σ₀)
    (other : ∀ a, gone = some a → call.action ≠ ControlFile.assignEntry a) :
    Body.Doubles (Event.Strays gone) gone sink (Action.dispatch perform e call)
      (Action.dispatch perform e { call with sink := σ₀ }) := by
  intro frame w w₀ same
  -- The commands and the other entries are the same in both runs, so they take the same branch.
  have catalogue : w₀.catalogue = w.catalogue := by
    obtain ⟨_, _, rfl⟩ := same
    rfl
  simp only [Action.dispatch, Frame.lacking, ControlFile.target_lacking other,
    ControlFile.arguments_lacking other, World.command?, catalogue]
  split
  · exact doubles_block runs paired same _ frame
  split
  · exact (doubles_command performs runs paired same _ _).map fun _ _ equal =>
      equal ▸ rfl
  split
  · exact runs gone sink σ₀ { call with action := _ } frame w w₀ paired same
  · exact (doubles_sayLine paired same _).map fun _ _ _ => rfl

theorem doubles_carryOut (performs : Performer.Doubles perform) (runs : Runner.Doubles e.run)
    (paired : Paired sink call.sink σ₀)
    (other : ∀ a, gone = some a → call.action ≠ ControlFile.assignEntry a) (d : Descriptor) :
    Body.Doubles (Event.Strays gone) gone sink (Action.carryOut perform e call d)
      (Action.carryOut perform e { call with sink := σ₀ } d) := by
  intro frame w w₀ same
  simp only [Action.carryOut]
  split
  · exact (doubles_sayLine paired same _).map fun _ _ _ => rfl
  · refine ((doubles_warn paired same _).bind fun _ _ w w₀ _ same =>
      doubles_postpone same _).bind fun _ _ w w₀ _ same => ?_
    exact doubles_all (fun e _ strays => strays.under (by simp)) paired same
      (doubles_dispatch (e := e) performs runs (by exact paired) (by exact other)) _ _ frame

theorem openFile_lacking (output : String) (frame : Frame) (w : World) (text console : String) :
    Outlet.openFile output (frame.lacking gone) { w with text, console } =
      (Outlet.openFile output frame w).map fun r =>
        (r.1.lacking gone, { r.2 with text, console }) := by
  unfold Outlet.openFile
  by_cases known : frame.opened.contains output = true
  · simp only [Frame.lacking, known, if_true, Except.map]
  · simp only [Frame.lacking, known]
    cases w.files.openAppend output <;> rfl

theorem doubles_resolve (paired : Paired sink call.sink σ₀) (same : w.Same w₀) (d : Descriptor)
    (frame : Frame) :
    Doubles (Event.Strays gone) sink (Alongside gone) w (Outlet.resolve d call.sink frame w) w₀
      (Outlet.resolve d σ₀ (frame.lacking gone) w₀) := by
  unfold Outlet.resolve
  split
  · exact doubles_done same rfl
  · exact doubles_done same rfl
  · have warned : Doubles (Event.Strays gone) sink Eq w
        (if d.assignName?.isSome then w.sayLine call.sink (Outlet.assignIgnored d.name)
          else .done () w) w₀
        (if d.assignName?.isSome then w₀.sayLine σ₀ (Outlet.assignIgnored d.name)
          else .done () w₀) := by
      split
      · exact doubles_sayLine paired same _
      · exact doubles_done same rfl
    refine warned.bind fun _ _ w w₀ _ same => ?_
    obtain ⟨text, console, rfl⟩ := id same
    rw [openFile_lacking]
    cases opened : Outlet.openFile _ frame w with
    | error fault => exact (doubles_sayLine paired same _).map fun _ _ _ => rfl
    | ok r =>
      obtain ⟨frame', w'⟩ := r
      obtain ⟨_, _, rfl, rfl⟩ := Outlet.openFile_eq_ok opened
      exact fun _ => .done (both_nothing ⟨text, console, rfl⟩ _ _ rfl rfl) rfl

/-- A body that is captured does the same, whatever it is compared to; all it has said becomes the
value of the variable. -/
theorem doubles_capturing {off : Event → Prop} {body body₀ : Body} (name : String)
    (same : w.Same w₀) (h : Body.Doubles off gone .text body body₀) (frame : Frame) :
    Doubles off sink (Alongside gone) w (Action.capturing name body frame w) w₀
      (Action.capturing name body₀ (frame.lacking gone) w₀) := by
  intro said
  rw [Action.capturing_eq, Action.capturing_eq]
  -- Both texts begin empty in the capture, whatever the callers have heard so far.
  have inside := h frame { w with text := "" } { w₀ with text := "" } (same.withText _ _) ""
  refine (inside.collected rfl _ _ _ w.text w₀.text).map fun _ r r₀ related => ?_
  obtain ⟨⟨answer, left⟩, text⟩ := r
  obtain ⟨⟨answer₀, left₀⟩, text₀⟩ := r₀
  obtain ⟨related, rfl⟩ := related
  cases related
  match answer with
  | .ok true | .ok false | .error _ => rfl

theorem doubles_through {off : Event → Prop} {body body₀ : Sink → Body}
    (h : ∀ sink σ σ₀, Paired sink σ σ₀ → Body.Doubles off gone sink (body σ) (body₀ σ₀))
    (paired : Paired sink call.sink σ₀) (same : w.Same w₀) (outlet : Outlet) (frame : Frame) :
    Doubles off sink (Alongside gone) w (Action.through body call.sink outlet frame w) w₀
      (Action.through body₀ σ₀ outlet (frame.lacking gone) w₀) := by
  cases outlet with
  | caller => exact h sink _ _ paired frame w w₀ same
  | file path => exact h sink _ _ (.file path) frame w w₀ same
  | capture name =>
    exact doubles_capturing name same (h .text _ _ (.stream (by simp))) frame

/-- An action that asks for no repetition in the background is not repeated there. -/
theorem schedule_eq_self {d : Descriptor} (once : d.repeatEvery.bind Text.nonBlank = none)
    (frame : Frame) (w : World) : Action.schedule d frame w = w := by
  have every : (Plan.resolve d).toOption.bind (·.every) = none := by
    have read : readNonBlank d.repeatEvery Interval.parse? .badInterval = .ok none := by
      simp [readNonBlank, once]
    rw [Plan.resolve, read]
    cases Policy.resolve d with
    | error fault => rfl
    | ok policy =>
      change ((Iterations.resolve d policy).bind _).toOption.bind _ = none
      cases Iterations.resolve d policy with
      | error fault => rfl
      | ok iterations => cases readNonBlank d.postponeUntil TimeOfDay.parse? .badTime <;> rfl
  simp only [Action.schedule, every]

theorem same_schedule {d : Descriptor} (same : w.Same w₀) (frame : Frame)
    (alone : gone = none ∨ d.repeatEvery.bind Text.nonBlank = none) :
    (Action.schedule d frame w).Same (Action.schedule d (frame.lacking gone) w₀) := by
  rcases alone with rfl | once
  · obtain ⟨text, console, rfl⟩ := same
    unfold Action.schedule World.repeatAction
    split
    · simp only
      split <;> exact ⟨text, console, rfl⟩
    · exact ⟨text, console, rfl⟩
  · rw [schedule_eq_self once, schedule_eq_self once]
    exact same

theorem streams_schedule (d : Descriptor) (frame : Frame) (w : World) :
    (Action.schedule d frame w).streams = w.streams := by
  obtain ⟨_, _, same⟩ := Action.schedule_eq d frame w
  rw [same]
  rfl

/-- What an invocation does once its outlet is known. -/
theorem doubles_invokeThrough (performs : Performer.Doubles perform) (runs : Runner.Doubles e.run)
    (paired : Paired sink call.sink σ₀) (same : w.Same w₀)
    (other : ∀ a, gone = some a → call.action ≠ ControlFile.assignEntry a) {d : Descriptor}
    (alone : gone = none ∨ d.repeatEvery.bind Text.nonBlank = none) (outlet : Outlet)
    (frame : Frame) :
    Doubles (Event.Strays gone) sink (Alongside gone) w
      (Action.invokeThrough perform e call d outlet frame w) w₀
      (Action.invokeThrough perform e { call with sink := σ₀ } d outlet (frame.lacking gone) w₀) := by
  have bodies : ∀ sink σ σ₀, Paired sink σ σ₀ → Body.Doubles (Event.Strays gone) gone sink
      (Action.carryOut perform e { call with sink := σ } d)
      (Action.carryOut perform e { call with sink := σ₀ } d) := fun sink σ σ₀ paired =>
    @doubles_carryOut _ _ _ _ _ { call with sink := σ } performs runs paired other d
  have carried := doubles_through bodies paired same outlet frame
  refine (carried.under fun e strays => strays.under (by simp)).bind fun r r₀ w w₀ related same => ?_
  obtain rfl := related
  obtain ⟨answer, frame⟩ := r
  match answer with
  | .ok true =>
    exact fun _ => .done (both_nothing (same_schedule same frame alone) _ _
      (streams_schedule ..) (streams_schedule ..)) rfl
  | .ok false | .error _ => exact doubles_done same rfl

/-- The world after the invocation has been counted. -/
theorem both_count (same : w.Same w₀) (left right : Option Sink) (name : String) :
    Both left right "" w (w.count name) w₀ (w₀.count name) := by
  obtain ⟨text, console, rfl⟩ := same
  exact both_nothing ⟨text, console, rfl⟩ left right rfl rfl

theorem doubles_invoke (performs : Performer.Doubles perform) (runs : Runner.Doubles e.run)
    (paired : Paired sink call.sink σ₀) (same : w.Same w₀) (frame : Frame) :
    Doubles (Event.Strays gone) sink (Alongside gone) w (Action.invoke perform e call frame w) w₀
      (Action.invoke perform e { call with sink := σ₀ } (frame.lacking gone) w₀) := by
  have counted := fun left right => both_count same left right "actions.executed"
  have again : (Descriptor.read (frame.control.lacking gone) call.action frame.vars).repeatEvery =
      (Descriptor.read frame.control call.action frame.vars).repeatEvery :=
    ControlFile.modifier?_lacking (by simp)
  -- Either the two runs go apart here, and nothing more is asked of them, or they read the same.
  by_cases strays : Event.Strays gone
      ⟨[], .invoked (.read frame.control call.action frame.vars)⟩
  · obtain ⟨a, d, rfl, what, own, strays⟩ := id strays
    obtain rfl : Descriptor.read frame.control call.action frame.vars = d := by simpa using what
    exact fun _ => .astray ‹_› ⟨a, _, rfl, rfl, own, again ▸ strays⟩
  · have plain : ∀ a, gone = some a → call.action ≠ a ∧
        call.action ≠ ControlFile.assignEntry a ∧
        (Descriptor.read frame.control call.action frame.vars).repeatEvery.bind Text.nonBlank =
          none := by
      rintro a rfl
      refine ⟨fun named => strays ⟨a, _, rfl, rfl, by simp, .inl named⟩,
        fun named => strays ⟨a, _, rfl, rfl, by simp, .inr (.inl named)⟩,
        Decidable.byContradiction fun every => strays ⟨a, _, rfl, rfl, by simp, .inr (.inr every)⟩⟩
    have read : Descriptor.read (frame.control.lacking gone) call.action frame.vars =
        Descriptor.read frame.control call.action frame.vars :=
      Descriptor.read_lacking fun gone => (plain _ gone).1 rfl
    have alone : gone = none ∨
        (Descriptor.read frame.control call.action frame.vars).repeatEvery.bind Text.nonBlank =
          none := by
      cases gone with
      | none => exact .inl rfl
      | some a => exact .inr (plain a rfl).2.2
    refine fun said => .note (counted _ _) ?_
    simp only [bind_done, Frame.lacking, read]
    refine (doubles_resolve paired (counted none none).same _ frame).bind
      (fun r r₀ w w₀ related same => ?_) _
    obtain rfl := related
    obtain ⟨_ | outlet, frame⟩ := r
    · exact doubles_done same rfl
    · exact doubles_invokeThrough performs runs paired same (fun a gone => (plain a gone).2.1)
        alone outlet frame

theorem doubles_runner (performs : Performer.Doubles perform) (steps : Nat) :
    Runner.Doubles (Action.runner perform steps) := by
  induction steps with
  | zero => exact fun _ _ _ _ _ _ _ _ _ _ => .stuck
  | succ steps ih =>
    intro gone sink σ₀ call frame w w₀ paired same
    exact doubles_invoke performs ih paired same frame

end Actions

section Commands

variable {off : Event → Prop} {sink σ σ₀ : Sink} {w w₀ : World}

theorem doubles_sleepFor (same : w.Same w₀) (milliseconds : String) :
    Doubles off sink Eq w (Request.sleepFor milliseconds w) w₀
      (Request.sleepFor milliseconds w₀) := by
  obtain ⟨text, console, rfl⟩ := id same
  unfold Request.sleepFor World.sleep
  split
  · exact doubles_done same rfl
  · refine Doubles.map (R := Eq) ?_ (by rintro _ _ rfl; rfl)
    simp only
    split
    · exact doubles_done same rfl
    · refine (doubles_await same _).bind fun _ _ w w₀ _ same => ?_
      obtain ⟨text, console, rfl⟩ := id same
      exact doubles_done same rfl

theorem doubles_showTime (paired : Paired sink σ σ₀) (same : w.Same w₀) (format : String) :
    Doubles off sink Eq w (Request.showTime format σ w) w₀ (Request.showTime format σ₀ w₀) := by
  obtain ⟨text, console, rfl⟩ := id same
  unfold Request.showTime
  simp only
  split
  · exact (doubles_sayLine paired same _).map fun _ _ _ => rfl
  · exact doubles_done same rfl

theorem doubles_showFilter (paired : Paired sink σ σ₀) (same : w.Same w₀)
    (filter? : Option String) :
    Doubles off sink Eq w (Request.showFilter filter? σ w) w₀
      (Request.showFilter filter? σ₀ w₀) := by
  obtain ⟨text, console, rfl⟩ := id same
  unfold Request.showFilter
  split
  · exact (doubles_sayLine paired same _).map fun _ _ _ => rfl
  · split
    · exact doubles_done same rfl
    · rename_i filter _
      have changed : World.Same { w with logFilter := filter }
          { w with logFilter := filter, text, console } := ⟨text, console, rfl⟩
      exact ((doubles_sayLine paired changed _).map fun _ _ _ => rfl).changed changed rfl rfl

theorem doubles_onBench (paired : Paired sink σ σ₀) (same : w.Same w₀) (request : Bench.Request) :
    Doubles off sink Eq w (Request.onBench request σ w) w₀ (Request.onBench request σ₀ w₀) := by
  obtain ⟨text, console, rfl⟩ := same
  unfold Request.onBench
  simp only
  split
  · rename_i answer bench _
    have changed : World.Same { w with bench } { w with bench, text, console } :=
      ⟨text, console, rfl⟩
    exact ((doubles_say paired changed answer).map fun _ _ _ => rfl).changed changed rfl rfl
  · rename_i bench _
    exact fun _ => .done (both_nothing ⟨text, console, rfl⟩ _ _ rfl rfl) rfl

theorem doubles_shutDown (paired : Paired sink σ σ₀) (same : w.Same w₀) :
    Doubles off sink Eq w (Request.shutDown σ w) w₀ (Request.shutDown σ₀ w₀) := by
  refine (doubles_sayLine paired same _).bind fun _ _ w w₀ _ same => ?_
  obtain ⟨text, console, rfl⟩ := same
  have down : w.shutDown.Same (World.shutDown { w with text, console }) := ⟨text, console, rfl⟩
  exact ((doubles_tell down _).map fun _ _ _ => rfl).changed down rfl rfl

theorem doubles_runFile {e : Engine} (runs : Runner.Doubles e.run) (paired : Paired sink σ σ₀)
    (same : w.Same w₀) (path : String) (rest : List String) :
    Doubles (Event.Strays none) sink Eq w (Request.runFile e path rest σ w) w₀
      (Request.runFile e path rest σ₀ w₀) := by
  have files : w₀.files = w.files := by
    obtain ⟨_, _, rfl⟩ := same
    rfl
  simp only [Request.runFile, files]
  split
  · exact (doubles_sayLine paired same _).map fun _ _ _ => rfl
  · rename_i text _
    obtain ⟨action, vars⟩ := Request.actionAndVariables rest
    have ran := runs none sink σ₀ ⟨action, σ, false⟩ (.fresh (.parse text) vars) w w₀ paired same
    refine Doubles.map (R := fun r r₀ => r.1 = r₀.1) (ran.map fun r r₀ related => ?_)
      fun _ _ equal => equal
    cases related
    rfl

/-- Commands do the same to a world wherever they write. -/
theorem doubles_perform : Performer.Doubles Command.perform := by
  intro e runs sink σ σ₀ c args w w₀ paired same
  unfold Command.perform
  split
  · rename_i request _
    unfold Request.perform
    cases request with
    | help name? =>
      obtain ⟨text, console, rfl⟩ := id same
      exact (doubles_sayLines paired same _).map fun _ _ _ => rfl
    | echo words => exact (doubles_sayLine paired same _).map fun _ _ _ => rfl
    | sleep milliseconds => exact doubles_sleepFor same milliseconds
    | currentTime format? => exact doubles_showTime paired same _
    | controlFile path rest => exact doubles_runFile runs paired same path rest
    | fail kind? words => exact doubles_done same rfl
    | quit => exact doubles_shutDown paired same
    | loggingLevel filter? => exact doubles_showFilter paired same filter?
    | bench request => exact doubles_onBench paired same request
  · exact (doubles_sayLines paired same _).map fun _ _ _ => rfl

end Commands

end Runbook
