import Runbook.Command.Perform
import Runbook.Proofs.Inversion
/-! What runs do to the world between one event and the next one. A command that is started carries
out its request, an action that has succeeded begins to be repeated, and events that change the
world say so; all else is writing. It is said of runs that are not over as well. -/
namespace Runbook

open Course

inductive Due where
  | nothing
  | request (r : Bench.Request)
  | repetition (d : Descriptor)

def Due.ofCommand (c : Command) (args : List String) : Due :=
  match Request.read c args with
  | some (.bench r) => .request r
  | _ => .nothing

/-- What is to be done after something that has happened as a part of layers. The innermost of them
is the action whose loop has come to its end. -/
def Due.ofEvent (layers : List Layer) : Happening → Due
  | .started c args => .ofCommand c args
  | .finished (.ok true) =>
    match layers.getLast? with
    | some (.action l) => .repetition l.descriptor
    | _ => .nothing
  | _ => .nothing

/-- The same world, but for what is written and for the filter of the log. -/
def Quiet (w w' : World) : Prop :=
  ∃ files text console logFilter, w' = { w with files, text, console, logFilter }

/-- What was due has been done, and nothing else. A repetition has the control file that its action
was read from. -/
def Due.Met (due : Due) (w w' : World) : Prop :=
  match due with
  | .nothing => Quiet w w'
  | .request r => Quiet { w with bench := (w.bench.carryOut w.files r).2 } w'
  | .repetition d => ∃ frame : Frame, (∃ action vars, d = .read frame.control action vars) ∧
      Quiet (Action.schedule d frame w) w'

/-- What has happened is all that tells a world from the one before. No command is started after the
shutdown. -/
def Happening.Leaves (what : Happening) (w w' : World) : Prop :=
  match what with
  | .invoked _ => Quiet (w.count "actions.executed") w'
  | .shutDown => Quiet w.shutDown w'
  | .started .. => w.shutdown = false ∧ Quiet w w'
  | _ => Quiet w w'

namespace Quiet

variable {w w' w'' : World}

theorem refl (w : World) : Quiet w w := ⟨w.files, w.text, w.console, w.logFilter, rfl⟩

theorem trans (h : Quiet w w') (h' : Quiet w' w'') : Quiet w w'' := by
  obtain ⟨_, _, _, _, rfl⟩ := h
  obtain ⟨files, text, console, logFilter, rfl⟩ := h'
  exact ⟨files, text, console, logFilter, rfl⟩

theorem symm (h : Quiet w w') : Quiet w' w := by
  obtain ⟨_, _, _, _, rfl⟩ := h
  exact ⟨w.files, w.text, w.console, w.logFilter, rfl⟩

theorem withText (w : World) (text : String) : Quiet w { w with text } :=
  ⟨w.files, text, w.console, w.logFilter, rfl⟩

theorem write (w : World) (sink : Sink) (text : String) : Quiet w (w.write sink text) := by
  cases sink <;> exact ⟨_, _, _, _, rfl⟩

theorem schedule (h : Quiet w w') (d : Descriptor) (frame : Frame) :
    Quiet (Action.schedule d frame w) (Action.schedule d frame w') := by
  obtain ⟨files, text, console, logFilter, rfl⟩ := h
  unfold Action.schedule World.repeatAction
  split
  · split <;> exact ⟨files, text, console, logFilter, rfl⟩
  · exact ⟨files, text, console, logFilter, rfl⟩

end Quiet

section Met

variable {due : Due} {w w' w'' : World} {what : Happening}

theorem Due.Met.quiet (h : due.Met w w') (quiet : Quiet w' w'') : due.Met w w'' := by
  cases due with
  | nothing => exact Quiet.trans h quiet
  | request => exact Quiet.trans h quiet
  | repetition d =>
    obtain ⟨frame, read, scheduled⟩ := h
    exact ⟨frame, read, scheduled.trans quiet⟩

/-- The text of the caller makes no difference. -/
theorem Due.Met.withText (h : due.Met w w') (text : String) : due.Met { w with text } w' := by
  cases due with
  | nothing =>
    have same : Quiet w w' := h
    exact (Quiet.withText w text).symm.trans same
  | request r =>
    have same : Quiet { w with bench := (w.bench.carryOut w.files r).2 } w' := h
    exact (Quiet.withText _ text).symm.trans same
  | repetition d =>
    obtain ⟨frame, read, scheduled⟩ := h
    exact ⟨frame, read, ((Quiet.withText w text).symm.schedule d frame).trans scheduled⟩

theorem Happening.Leaves.quiet (h : what.Leaves w w') (quiet : Quiet w' w'') :
    what.Leaves w w'' := by
  cases what with
  | started => exact ⟨h.1, h.2.trans quiet⟩
  | _ => exact Quiet.trans h quiet

end Met

namespace Course

variable {α β : Type}

/-- From a world on in which something is due, a course does what is due before the next event or
wait, again and again; what holds at its end is left open. When a wait ends nothing is due, in
whatever world that is. -/
inductive Heeds {α : Type} (ctx : List Layer) (Q : Due → World → α → World → Prop) :
    Due → World → Course World α → Prop
  | stuck {due : Due} {w : World} : Heeds ctx Q due w stuck
  | done {due : Due} {w v : World} {a : α} (ended : Q due w a v) : Heeds ctx Q due w (done a v)
  | note {due : Due} {w u v : World} {e : Event} {next : Unit → Course World α}
      (met : due.Met w u) (leaves : e.what.Leaves u v)
      (rest : Heeds ctx Q (.ofEvent (ctx ++ e.layers) e.what) v (next ())) :
      Heeds ctx Q due w (note e v next)
  | wait {due : Due} {w u v : World} {reason : Wait} {next : World → Course World α}
      (met : due.Met w u) (settled : v = u.settle)
      (rest : ∀ now, Heeds ctx Q .nothing now (next now)) :
      Heeds ctx Q due w (wait reason v next)

/-- A part of a run goes on from a world in which all has been done that was due, and leaves one. -/
def Goes (ctx : List Layer) (P : α → Prop) (w : World) (c : Course World α) : Prop :=
  ∀ due w₀, due.Met w₀ w → Heeds ctx (fun due w a v => due.Met w v ∧ P a) due w₀ c

section Heeds

variable {ctx : List Layer} {Q : Due → World → α → World → Prop}
  {R : Due → World → β → World → Prop} {due : Due} {w : World} {c : Course World α}
  {f : α → World → Course World β}

theorem Heeds.bind (h : Heeds ctx Q due w c)
    (later : ∀ due w a v, Q due w a v → Heeds ctx R due w (f a v)) :
    Heeds ctx R due w (c.bind f) := by
  induction h with
  | stuck => exact .stuck
  | done ended => exact later _ _ _ _ ended
  | note met leaves _ ih => exact .note met leaves ih
  | wait met settled _ ih => exact .wait met settled ih

theorem Heeds.imp {Q' : Due → World → α → World → Prop} (h : Heeds ctx Q due w c)
    (weaker : ∀ due w a v, Q due w a v → Q' due w a v) : Heeds ctx Q' due w c := by
  rw [← Course.bind_done_right c]
  exact h.bind fun due w a v ended => .done (weaker due w a v ended)

theorem Heeds.under {layer : Layer} (h : Heeds (ctx ++ [layer]) Q due w c) :
    Heeds ctx Q due w (c.under layer) := by
  induction h with
  | stuck => exact .stuck
  | done ended => exact .done ended
  | @note _ _ _ _ e _ met leaves _ ih =>
    refine .note met leaves ?_
    simpa [Event.under] using ih
  | wait met settled _ ih => exact .wait met settled ih

/-- Out of a place for its text, a run goes on in the same way. -/
theorem Heeds.underText (h : Heeds ctx Q due w c) (outer text : String) :
    Heeds ctx (fun due w r v => ∃ text text', Q due { w with text } r.1 { v with text := text' })
      due { w with text } (c.underText outer) := by
  induction h generalizing outer text with
  | stuck => exact .stuck
  | @done _ w v _ ended => exact .done ⟨w.text, v.text, ended⟩
  | @note _ _ _ v _ _ met leaves _ ih =>
    exact .note (met.withText text) (leaves.quiet (.withText v outer)) (ih outer outer)
  | @wait _ _ u v _ _ met settled _ ih =>
    refine .wait ((met.withText text).quiet (.withText u outer)) (settled ▸ rfl) fun now => ?_
    exact ih { now with text := v.text } now.text now.text

end Heeds

section Goes

variable {ctx : List Layer} {P : α → Prop} {R : β → Prop} {w w' : World} {c : Course World α}
  {f : α → World → Course World β}

theorem Goes.bind (h : Goes ctx P w c) (later : ∀ a v, P a → Goes ctx R v (f a v)) :
    Goes ctx R w (c.bind f) := fun due w₀ met =>
  (h due w₀ met).bind fun due w a v ended => later a v ended.2 due w ended.1

/-- Where nothing is due. -/
theorem Goes.heeds (h : Goes ctx P w c) :
    Heeds ctx (fun due w a v => due.Met w v ∧ P a) .nothing w c := h .nothing w (Quiet.refl w)

theorem goes_done {a : α} (holds : P a) : Goes ctx P w (.done a w) := fun _ _ met =>
  .done ⟨met, holds⟩

theorem Goes.map {g : α → β} (h : Goes ctx P w c) (holds : ∀ a, P a → R (g a)) :
    Goes ctx R w (c.map g) := h.bind fun a _ held => goes_done (holds a held)

theorem Goes.imp {P' : α → Prop} (h : Goes ctx P w c) (holds : ∀ a, P a → P' a) :
    Goes ctx P' w c := fun due w₀ met =>
  (h due w₀ met).imp fun _ _ a _ ended => ⟨ended.1, holds a ended.2⟩

/-- What is only written since makes no difference. -/
theorem Goes.quiet (h : Goes ctx P w' c) (quiet : Quiet w w') : Goes ctx P w c :=
  fun due w₀ met => h due w₀ (met.quiet quiet)

theorem Goes.under {layer : Layer} (h : Goes (ctx ++ [layer]) P w c) :
    Goes ctx P w (c.under layer) := fun due w₀ met => (h due w₀ met).under

end Goes

end Course

section Parts

variable {ctx : List Layer} {w : World}

/-- Something happens that leaves the world as it is, and after which nothing is due. -/
theorem goes_tell {what : Happening} (leaves : what.Leaves w w)
    (nothing : Due.ofEvent ctx what = .nothing) : Goes ctx (fun _ => True) w (w.tell what) := by
  intro due w₀ met
  refine .note met leaves (.done ⟨?_, trivial⟩)
  rw [List.append_nil, nothing]
  exact Quiet.refl w

theorem goes_say (w : World) (sink : Sink) (text : String) :
    Goes ctx (fun _ => True) w (w.say sink text) := fun _ _ met =>
  .note met (Quiet.write w sink text) (.done ⟨Quiet.refl _, trivial⟩)

theorem goes_sayLine (w : World) (sink : Sink) (line : String) :
    Goes ctx (fun _ => True) w (w.sayLine sink line) := goes_say w sink _

theorem goes_sayLines (w : World) (sink : Sink) (lines : List String) :
    Goes ctx (fun _ => True) w (w.sayLines sink lines) := by
  induction lines generalizing w with
  | nil => exact goes_done trivial
  | cons line rest ih => exact (goes_sayLine w sink line).bind fun _ v _ => ih v

theorem goes_await (w : World) (reason : Wait) :
    Goes ctx (fun _ => True) w (w.await reason) := fun _ _ met =>
  .wait met rfl fun now => .done ⟨Quiet.refl now, trivial⟩

theorem goes_pause (w : World) (milliseconds : Nat) :
    Goes ctx (fun _ => True) w (w.pause milliseconds) := by
  unfold World.pause
  split
  · exact goes_done trivial
  · exact goes_await _ _

theorem goes_postpone (w : World) (time? : Option TimeOfDay) :
    Goes ctx (fun _ => True) w (w.postpone time?) := by
  unfold World.postpone
  split
  · exact goes_pause _ _
  · exact goes_done trivial

theorem goes_describe (m : Modifier) (call : Call) (frame : Frame) (w : World) :
    Goes ctx (fun _ => True) w (Iteration.describe m call frame w) := by
  unfold Iteration.describe
  split
  · exact goes_sayLine _ _ _
  · exact goes_done trivial

theorem goes_warn (call : Call) (plan : Plan) (w : World) :
    Goes ctx (fun _ => True) w (Action.warn call plan w) := by
  unfold Action.warn
  split
  · exact goes_sayLine _ _ _
  · exact goes_done trivial

theorem goes_conclude (call : Call) (p : Policy) (answer : Answer) (frame : Frame) (w : World) :
    Goes ctx (fun r => r.value = frame) w (Iteration.conclude call p answer frame w) := by
  unfold Iteration.conclude
  split
  · exact (goes_describe _ _ _ _).map fun _ _ => rfl
  · exact goes_done rfl
  · unfold Iteration.settle
    split
    · exact goes_done rfl
    · exact goes_done rfl
    · exact goes_done rfl
    · exact (goes_sayLine _ _ _).map fun _ _ => rfl

theorem goes_resolve (ctx : List Layer) (d : Descriptor) (caller : Sink) (frame : Frame)
    (w : World) :
    Goes ctx (fun r => r.2.control = frame.control) w (Outlet.resolve d caller frame w) := by
  unfold Outlet.resolve
  split
  · exact goes_done rfl
  · exact goes_done rfl
  · refine Goes.bind (P := fun _ => True) ?_ fun _ v _ => ?_
    · split
      · exact goes_sayLine _ _ _
      · exact goes_done trivial
    · split
      · obtain ⟨_, files, rfl, rfl⟩ := Outlet.openFile_eq_ok ‹_›
        refine Goes.quiet ?_ ⟨files, v.text, v.console, v.logFilter, rfl⟩
        exact goes_done rfl
      · exact (goes_sayLine _ _ _).map fun _ _ => rfl

end Parts

section Rounds

variable {ctx : List Layer} {call : Call} {plan : Plan} {loop? : Option LoopVariable} {body : Body}

def Body.Goes (ctx : List Layer) (body : Body) : Prop :=
  ∀ frame w, w.shutdown = false →
    Course.Goes ctx (fun r => r.2.control = frame.control) w (body frame w)

theorem control_bind (loop? : Option LoopVariable) (it : Iterations) (index : Nat) (frame : Frame) :
    (Iteration.bind loop? it index frame).control = frame.control := by
  cases loop? <;> rfl

theorem control_restore (loop? : Option LoopVariable) (frame : Frame) :
    (Iteration.restore loop? frame).control = frame.control := by
  cases loop? <;> rfl

theorem goes_round {index : Nat} (h : Body.Goes (ctx ++ [.round index]) body) (frame : Frame)
    (w : World) :
    Goes ctx (fun r => r.value.control = frame.control) w
      (Iteration.round call plan loop? body index frame w) := by
  intro due w₀ met
  refine .note met (Quiet.refl w) ?_
  have rest : Goes ctx (fun r => r.value.control = frame.control) w
      (if w.shutdown then
        (w.sayLine call.sink (Iteration.interrupted call.action)).map fun _ =>
          Round.stop (.ok false) frame
      else Iteration.bodyRound call plan.policy body index
        (Iteration.bind loop? plan.iterations index frame) w) := by
    by_cases down : w.shutdown = true
    · rw [if_pos down]
      exact (goes_sayLine _ _ _).map fun _ _ => rfl
    · rw [if_neg down]
      have later : ∀ v : World, v.shutdown = false → Goes ctx
          (fun r => r.value.control = frame.control) v
          (((body (Iteration.bind loop? plan.iterations index frame) v).under (.round index)).bind
            fun r w => Iteration.conclude call plan.policy r.1 r.2 w) := fun v up =>
        (h _ v up).under.bind fun r w kept =>
          (goes_conclude call plan.policy r.1 r.2 w).imp fun _ same => by
            rw [same, kept, control_bind]
      have up : w.shutdown = false := by simpa using down
      -- The body still begins before the shutdown, which no description triggers.
      unfold Iteration.bodyRound Iteration.describe
      split
      · exact fun _ _ met => .note met (Quiet.write ..)
          (later _ ((World.shutdown_write ..).trans up) _ _ (Quiet.refl _))
      · exact later w up
  exact rest _ _ (Quiet.refl w)

theorem goes_loop (h : ∀ index, Body.Goes (ctx ++ [.round index]) body) (has : Nat → Bool)
    (limit index : Nat) (frame : Frame) (w : World) :
    Goes ctx (fun r => r.2.control = frame.control) w
      (loop has (Iteration.round call plan loop? body) (.ok true) limit index frame w) := by
  induction limit generalizing index frame w with
  | zero => exact fun _ _ _ => .stuck
  | succ limit ih =>
    by_cases one : has index = true
    · rw [loop_succ one]
      refine (goes_round (h index) frame w).bind fun r v kept => ?_
      cases r with
      | next left => exact (ih (index + 1) left v).imp fun _ same => same.trans kept
      | stop answer left => exact goes_done kept
    · simp only [loop, one]
      exact goes_done rfl

def Owes (d : Descriptor) (control : ControlFile) (due : Due) (w : World) (r : Answer × Frame)
    (v : World) : Prop :=
  r.2.control = control ∧
    (r.1 = .ok true ∧ due = .repetition d ∧ Quiet w v ∨ r.1 ≠ .ok true ∧ due.Met w v)

theorem owes_all {d : Descriptor} {outlet : Outlet}
    (h : ∀ index, Body.Goes (ctx ++ [.action ⟨d, outlet⟩] ++ [.round index]) body)
    (limit : Nat) (frame : Frame) {due : Due} {w₀ w : World} (met : due.Met w₀ w) :
    Heeds (ctx ++ [.action ⟨d, outlet⟩]) (Owes d frame.control) due w₀
      (Iteration.all call d.loopName plan body limit frame w) := by
  refine (goes_loop h _ limit 0 frame w due w₀ met).bind ?_
  rintro due w ⟨answer, left⟩ v ⟨met, kept⟩
  refine .note met (Quiet.refl v) (.done ⟨(control_restore ..).trans kept, ?_⟩)
  rcases answer with f | _ | _
  · exact .inr ⟨by simp, Quiet.refl v⟩
  · exact .inr ⟨by simp, Quiet.refl v⟩
  · exact .inl ⟨rfl, by simp [Due.ofEvent], Quiet.refl v⟩

end Rounds

def Runner.Goes (run : Runner) : Prop :=
  ∀ ctx call frame w, Course.Goes ctx (fun r => r.2.control = frame.control) w (run call frame w)

def Performer.Goes (perform : Performer) : Prop :=
  ∀ e : Engine, Runner.Goes e.run → ∀ ctx c args sink w,
    Heeds ctx (fun due w _ v => due.Met w v) (.ofCommand c args) w (perform e c args sink w)

section Actions

variable {ctx : List Layer} {perform : Performer} {e : Engine}

theorem goes_block {run : Runner} (h : Runner.Goes run) (call : Call) (names : List String)
    (frame : Frame) (w : World) :
    Goes ctx (fun r => r.2.control = frame.control) w (Action.block run call names frame w) := by
  induction names generalizing frame w with
  | nil => exact goes_done rfl
  | cons name names ih =>
    refine (h ctx { call with action := name } frame w).bind fun r v kept => ?_
    obtain ⟨answer, left⟩ := r
    rcases answer with f | _ | _
    · exact goes_done kept
    · exact goes_done kept
    · exact (ih left v).imp fun _ same => same.trans kept

theorem goes_command (performs : Performer.Goes perform) (h : Runner.Goes e.run) (c : Command)
    (args : List String) (sink : Sink) {w : World} (up : w.shutdown = false) :
    Goes ctx (fun _ => True) w (Action.command perform e c args sink w) := by
  intro due w₀ met
  refine .note met ⟨up, Quiet.refl w⟩ ?_
  have inside := (performs e h (ctx ++ [.command c]) c args sink w).under
  refine Heeds.bind (c := (perform e c args sink w).under (.command c)) inside
    fun due w answer v met => ?_
  cases answer with
  | ok success => exact .done ⟨met, trivial⟩
  | error f =>
    have told : Goes ctx (fun _ => True) v (v.tell (.raised f)) := goes_tell (Quiet.refl v) rfl
    exact (told.map fun _ _ => trivial) due w met

theorem goes_dispatch (performs : Performer.Goes perform) (h : Runner.Goes e.run) (call : Call) :
    Body.Goes ctx (Action.dispatch perform e call) := by
  intro frame w up
  simp only [Action.dispatch]
  split
  · exact goes_block h call _ frame w
  split
  · exact (goes_command performs h _ _ _ up).map fun _ _ => rfl
  split
  · exact h ctx _ frame w
  · exact (goes_sayLine _ _ _).map fun _ _ => rfl

theorem owes_carryOut (performs : Performer.Goes perform) (h : Runner.Goes e.run) (call : Call)
    {d : Descriptor} {outlet : Outlet} (frame : Frame) {due : Due} {w₀ w : World}
    (met : due.Met w₀ w) :
    Heeds (ctx ++ [.action ⟨d, outlet⟩]) (Owes d frame.control) due w₀
      (Action.carryOut perform e call d frame w) := by
  simp only [Action.carryOut]
  split
  · refine ((goes_sayLine w _ _) due w₀ met).bind ?_
    rintro due w _ v ⟨met, -⟩
    exact .done ⟨rfl, .inr ⟨by simp, met⟩⟩
  · refine Heeds.bind (((goes_warn _ _ w).bind fun _ w _ => goes_postpone w _) due w₀ met) ?_
    rintro due w _ v ⟨met, -⟩
    exact owes_all (fun _ => goes_dispatch performs h _) _ frame met

theorem Owes.withText {d : Descriptor} {control : ControlFile} {due : Due} {w v : World}
    {r : Answer × Frame} {text text' : String}
    (h : Owes d control due { w with text } r { v with text := text' }) :
    Owes d control due w r v := by
  obtain ⟨kept, ⟨ok, same, quiet⟩ | ⟨other, met⟩⟩ := h
  · exact ⟨kept, .inl ⟨ok, same,
      (Quiet.withText w text).trans (quiet.trans (Quiet.withText v text').symm)⟩⟩
  · exact ⟨kept, .inr ⟨other, (met.withText w.text).quiet (Quiet.withText v text').symm⟩⟩

theorem control_captureInto (name text : String) (answer : Answer) (left : Frame) :
    (Action.captureInto name text answer left).control = left.control := by
  rcases answer with f | _ | _ <;> rfl

theorem owes_through (performs : Performer.Goes perform) (h : Runner.Goes e.run) (call : Call)
    {d : Descriptor} (outlet : Outlet) (frame : Frame) {due : Due} {w₀ w : World}
    (met : due.Met w₀ w) :
    Heeds (ctx ++ [.action ⟨d, outlet⟩]) (Owes d frame.control) due w₀
      (Action.through (fun sink => Action.carryOut perform e { call with sink } d) call.sink outlet
        frame w) := by
  cases outlet with
  | caller => exact owes_carryOut performs h _ frame met
  | file path => exact owes_carryOut performs h _ frame met
  | capture name =>
    rw [Action.through, Action.capturing_eq]
    have inside : Heeds (ctx ++ [.action ⟨d, .capture name⟩]) (Owes d frame.control) due w₀
        (Action.carryOut perform e { call with sink := .text } d frame { w with text := "" }) :=
      owes_carryOut performs h _ frame (met.quiet (Quiet.withText w ""))
    refine (inside.underText w.text w₀.text).bind ?_
    rintro due w r v ⟨text, text', owes⟩
    obtain ⟨kept, rest⟩ := owes.withText
    exact .done ⟨(control_captureInto ..).trans kept, rest⟩

theorem goes_invoke (performs : Performer.Goes perform) (h : Runner.Goes e.run) (call : Call)
    (frame : Frame) (w : World) :
    Goes ctx (fun r => r.2.control = frame.control) w (Action.invoke perform e call frame w) := by
  intro due w₀ met
  refine .note met (Quiet.refl _) ?_
  have resolved := (goes_resolve ctx (.read frame.control call.action frame.vars) call.sink
    frame (w.count "actions.executed")).heeds
  refine resolved.bind ?_
  rintro due w ⟨_ | outlet, opened⟩ v ⟨met, same⟩
  · exact .done ⟨met, same⟩
  refine Heeds.bind (owes_through performs h call outlet opened met).under fun due w r v owes => ?_
  obtain ⟨answer, left⟩ := r
  obtain ⟨kept, ⟨ok, rfl, quiet⟩ | ⟨other, met⟩⟩ := owes
  · cases ok
    have control : left.control = frame.control := kept.trans same
    exact .done ⟨⟨left, ⟨call.action, frame.vars, by rw [control]⟩, quiet.schedule _ left⟩, control⟩
  · rcases answer with f | _ | _
    · exact .done ⟨met, kept.trans same⟩
    · exact .done ⟨met, kept.trans same⟩
    · exact absurd rfl other

theorem goes_runner (performs : Performer.Goes perform) (steps : Nat) :
    Runner.Goes (Action.runner perform steps) := by
  intro ctx call frame w
  induction steps generalizing ctx call frame w with
  | zero => exact fun _ _ _ => .stuck
  | succ steps ih =>
    exact goes_invoke performs (fun ctx call frame w => ih ctx call frame w) call frame w

end Actions

section Commands

variable {ctx : List Layer} {w : World}

theorem goes_sleepFor (milliseconds : String) (w : World) :
    Goes ctx (fun _ => True) w (Request.sleepFor milliseconds w) := by
  unfold Request.sleepFor World.sleep
  split
  · exact goes_done trivial
  · refine Goes.map (P := fun _ => True) ?_ fun _ _ => trivial
    split
    · exact goes_done trivial
    · exact (goes_await _ _).bind fun _ _ _ => goes_done trivial

theorem goes_showTime (format : String) (sink : Sink) (w : World) :
    Goes ctx (fun _ => True) w (Request.showTime format sink w) := by
  unfold Request.showTime
  split
  · exact (goes_sayLine _ _ _).map fun _ _ => trivial
  · exact goes_done trivial

theorem goes_showFilter (filter? : Option String) (sink : Sink) (w : World) :
    Goes ctx (fun _ => True) w (Request.showFilter filter? sink w) := by
  unfold Request.showFilter
  split
  · exact (goes_sayLine _ _ _).map fun _ _ => trivial
  · split
    · exact goes_done trivial
    · rename_i filter _
      refine Goes.quiet ?_ ⟨w.files, w.text, w.console, filter, rfl⟩
      exact (goes_sayLine _ _ _).map fun _ _ => trivial

theorem goes_quit (sink : Sink) (w : World) :
    Goes ctx (fun _ => True) w (Request.shutDown sink w) :=
  (goes_sayLine w sink _).bind fun _ w _ => Goes.map (P := fun _ => True) (fun _ _ met =>
    .note met (Quiet.refl w.shutDown) (.done ⟨Quiet.refl _, trivial⟩)) fun _ _ => trivial

theorem goes_runControl {e : Engine} (h : Runner.Goes e.run) (control : ControlFile)
    (action : String) (vars : Variables) (sink : Sink) (w : World) :
    Goes ctx (fun _ => True) w (e.runControl control action vars sink w) :=
  (h ctx _ _ w).map fun _ _ => trivial

theorem goes_runFile {e : Engine} (h : Runner.Goes e.run) (path : String) (rest : List String)
    (sink : Sink) (w : World) :
    Goes ctx (fun _ => True) w (Request.runFile e path rest sink w) := by
  unfold Request.runFile
  split
  · exact (goes_sayLine _ _ _).map fun _ _ => trivial
  · exact (goes_runControl h _ _ _ _ w).map fun _ _ => trivial

/-- The bench is asked before anything is written. -/
theorem heeds_onBench (r : Bench.Request) (sink : Sink) (w : World) :
    Heeds ctx (fun due w _ v => due.Met w v) (.request r) w (Request.onBench r sink w) := by
  unfold Request.onBench
  split
  · rename_i text after answered
    have met : Due.Met (.request r) w { w with bench := after } := by
      have same : (w.bench.carryOut w.files r).2 = after := by rw [answered]
      exact same ▸ Quiet.refl _
    exact (Goes.map (R := fun _ => True) (goes_say _ sink text) (fun _ _ => trivial) _ _ met).imp
      fun _ _ _ _ ended => ended.1
  · rename_i f after answered
    have same : (w.bench.carryOut w.files r).2 = after := by rw [answered]
    exact .done (same ▸ Quiet.refl _)

theorem goes_perform : Performer.Goes Command.perform := by
  intro e h ctx c args sink w
  have plain {α : Type} {due : Due} {c : Course World α} (nothing : due = .nothing)
      (goes : Goes ctx (fun _ => True) w c) : Heeds ctx (fun due w _ v => due.Met w v) due w c := by
    subst nothing
    exact goes.heeds.imp fun _ _ _ _ ended => ended.1
  unfold Command.perform Due.ofCommand
  cases Request.read c args with
  | none => exact plain rfl ((goes_sayLines _ _ _).map fun _ _ => trivial)
  | some request =>
    unfold Request.perform
    cases request with
    | help name? => exact plain rfl ((goes_sayLines _ _ _).map fun _ _ => trivial)
    | echo words => exact plain rfl ((goes_sayLine _ _ _).map fun _ _ => trivial)
    | sleep milliseconds => exact plain rfl (goes_sleepFor milliseconds w)
    | currentTime format? => exact plain rfl (goes_showTime _ sink w)
    | controlFile path rest => exact plain rfl (goes_runFile h path rest sink w)
    | fail kind? words => exact plain rfl (goes_done trivial)
    | quit => exact plain rfl (goes_quit sink w)
    | loggingLevel filter? => exact plain rfl (goes_showFilter filter? sink w)
    | bench r => exact heeds_onBench r sink w

/-- What the engine of every front end runs goes on by what is due. -/
theorem goes_engine (steps : Nat) : Runner.Goes (Action.engine Command.perform steps).run :=
  goes_runner goes_perform steps

end Commands

end Runbook
