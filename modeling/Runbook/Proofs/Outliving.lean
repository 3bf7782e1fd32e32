import Runbook.Command.Perform
import Runbook.Proofs.Inversion
/-! Runs with a larger bound. They go on in the same way and outlive those with a smaller one; and
after the shutdown they start no command any more and come to their end. -/
namespace Runbook

def Event.Idle (e : Event) : Prop := ∀ c args, e.what ≠ .started c args

namespace Course

variable {α β : Type} {down : Bool} {c d : Course World α} {w : World}

/-- Once the shutdown has been triggered a course comes to its end, and starts no command. -/
inductive Still {α : Type} : Course World α → Prop
  | done {a : α} {w : World} (down : w.shutdown = true) : Still (done a w)
  | note {e : Event} {w : World} {next : Unit → Course World α} (down : w.shutdown = true)
      (idle : e.Idle) (rest : Still (next ())) : Still (note e w next)
  | wait {reason : Wait} {w : World} {next : World → Course World α} (down : w.shutdown = true)
      (rest : ∀ now, now.shutdown = true → Still (next now)) : Still (wait reason w next)

/-- A course outlives another one: it is the same but where the other is stuck, and if the
shutdown has been triggered by then, it comes to its end. -/
inductive Outlived {α : Type} : Bool → Course World α → Course World α → Prop
  | stuck {down : Bool} {d : Course World α} (still : down = true → Still d) :
      Outlived down stuck d
  | done {down : Bool} {a : α} {w : World} (same : w.shutdown = down) :
      Outlived down (done a w) (done a w)
  | note {down : Bool} {e : Event} {w : World} {next more : Unit → Course World α}
      (kept : down = true → w.shutdown = true ∧ e.Idle)
      (rest : Outlived w.shutdown (next ()) (more ())) :
      Outlived down (note e w next) (note e w more)
  | wait {down : Bool} {reason : Wait} {w : World} {next more : World → Course World α}
      (same : w.shutdown = down)
      (rest : ∀ now, (down = true → now.shutdown = true) →
        Outlived now.shutdown (next now) (more now)) :
      Outlived down (wait reason w next) (wait reason w more)

theorem Outlived.still (h : Outlived down c d) (isDown : down = true) : Still d := by
  induction h with
  | stuck still => exact still isDown
  | done same => exact .done (same.trans isDown)
  | note kept _ ih => exact .note (kept isDown).1 (kept isDown).2 (ih (kept isDown).1)
  | wait same _ ih =>
    exact .wait (same.trans isDown) fun now later => ih now (fun _ => later) later

theorem Still.bind (h : Still d) {g : α → World → Course World β}
    (later : ∀ a w, w.shutdown = true → Still (g a w)) : Still (d.bind g) := by
  induction h with
  | done down => exact later _ _ down
  | note down idle _ ih => exact .note down idle ih
  | wait down _ ih => exact .wait down ih

theorem Outlived.bind (h : Outlived down c d) {f g : α → World → Course World β}
    (later : ∀ a w, Outlived w.shutdown (f a w) (g a w)) :
    Outlived down (c.bind f) (d.bind g) := by
  induction h with
  | stuck still =>
    exact .stuck fun isDown => (still isDown).bind fun a w later' => (later a w).still later'
  | done same => exact same ▸ later _ _
  | note kept _ ih => exact .note kept ih
  | wait same _ ih => exact .wait same ih

theorem Outlived.map (h : Outlived down c d) (f : α → β) : Outlived down (c.map f) (d.map f) :=
  h.bind fun _ _ => .done rfl

theorem Still.under (h : Still d) (layer : Layer) : Still (d.under layer) := by
  induction h with
  | done down => exact .done down
  | note down idle _ ih => exact .note down idle ih
  | wait down _ ih => exact .wait down ih

theorem Outlived.under (h : Outlived down c d) (layer : Layer) :
    Outlived down (c.under layer) (d.under layer) := by
  induction h with
  | stuck still => exact .stuck fun isDown => (still isDown).under layer
  | done same => exact .done same
  | note kept _ ih => exact .note kept ih
  | wait same _ ih => exact .wait same ih

theorem Still.underText (h : Still d) (outer : String) : Still (d.underText outer) := by
  induction h generalizing outer with
  | done down => exact .done down
  | note down idle _ ih => exact .note down idle (ih outer)
  | @wait _ w _ down _ ih =>
    exact .wait down fun now later => ih { now with text := w.text } later now.text

theorem Outlived.underText (h : Outlived down c d) (outer : String) :
    Outlived down (c.underText outer) (d.underText outer) := by
  induction h generalizing outer with
  | stuck still => exact .stuck fun isDown => (still isDown).underText outer
  | done same => exact .done same
  | note kept _ ih => exact .note kept (ih outer)
  | @wait _ _ w _ _ same _ ih =>
    exact .wait same fun now kept => ih { now with text := w.text } kept now.text

end Course

open Course

section Parts

variable {α β : Type} {w : World}

theorem outlived_tell {what : Happening} (idle : ∀ c args, what ≠ .started c args) :
    Outlived w.shutdown (w.tell what) (w.tell what) :=
  .note (fun down => ⟨down, idle⟩) (.done rfl)

theorem outlived_say (w : World) (sink : Sink) (text : String) :
    Outlived w.shutdown (w.say sink text) (w.say sink text) :=
  .note (fun down => ⟨by simpa using down, by simp [Event.Idle]⟩) (.done rfl)

theorem outlived_sayLine (w : World) (sink : Sink) (line : String) :
    Outlived w.shutdown (w.sayLine sink line) (w.sayLine sink line) :=
  outlived_say w sink _

theorem outlived_sayLines (w : World) (sink : Sink) (lines : List String) :
    Outlived w.shutdown (w.sayLines sink lines) (w.sayLines sink lines) := by
  induction lines generalizing w with
  | nil => exact .done rfl
  | cons line rest ih => exact (outlived_sayLine w sink line).bind fun _ w => ih w

theorem outlived_await (w : World) (reason : Wait) :
    Outlived w.shutdown (w.await reason) (w.await reason) :=
  .wait rfl fun _ _ => .done rfl

theorem outlived_postpone (w : World) (time? : Option TimeOfDay) :
    Outlived w.shutdown (w.postpone time?) (w.postpone time?) := by
  unfold World.postpone World.pause
  split
  · split
    · exact .done rfl
    · exact outlived_await ..
  · exact .done rfl

theorem outlived_describe (m : Modifier) (call : Call) (frame : Frame) (w : World) :
    Outlived w.shutdown (Iteration.describe m call frame w) (Iteration.describe m call frame w) := by
  unfold Iteration.describe
  split
  · exact outlived_sayLine ..
  · exact .done rfl

theorem outlived_warn (call : Call) (plan : Plan) (w : World) :
    Outlived w.shutdown (Action.warn call plan w) (Action.warn call plan w) := by
  unfold Action.warn
  split
  · exact outlived_sayLine ..
  · exact .done rfl

theorem outlived_conclude (call : Call) (p : Policy) (answer : Answer) (frame : Frame)
    (w : World) :
    Outlived w.shutdown (Iteration.conclude call p answer frame w)
      (Iteration.conclude call p answer frame w) := by
  unfold Iteration.conclude
  split
  · exact (outlived_describe ..).map _
  · exact .done rfl
  · unfold Iteration.settle
    split
    · exact .done rfl
    · exact .done rfl
    · exact .done rfl
    · exact (outlived_sayLine ..).map _

theorem outlived_resolve (d : Descriptor) (caller : Sink) (frame : Frame) (w : World) :
    Outlived w.shutdown (Outlet.resolve d caller frame w) (Outlet.resolve d caller frame w) := by
  unfold Outlet.resolve
  split
  · exact .done rfl
  · exact .done rfl
  · refine Outlived.bind ?_ fun _ w => ?_
    · split
      · exact outlived_sayLine ..
      · exact .done rfl
    · split
      · obtain ⟨_, _, rfl, rfl⟩ := Outlet.openFile_eq_ok ‹_›
        exact .done rfl
      · exact (outlived_sayLine ..).map _

end Parts

section Rounds

variable {call : Call} {plan : Plan} {loop? : Option LoopVariable} {body body' : Body}

def Body.Outlived (body body' : Body) : Prop :=
  ∀ frame w, w.shutdown = false → Course.Outlived false (body frame w) (body' frame w)

theorem outlived_bodyRound {p : Policy} (h : Body.Outlived body body') (index : Nat)
    (frame : Frame) {w : World} (up : w.shutdown = false) :
    Outlived w.shutdown (Iteration.bodyRound call p body index frame w)
      (Iteration.bodyRound call p body' index frame w) := by
  have rest : ∀ w : World, w.shutdown = false → Outlived w.shutdown
      (((body frame w).under (.round index)).bind fun r w =>
        Iteration.conclude call p r.1 r.2 w)
      (((body' frame w).under (.round index)).bind fun r w =>
        Iteration.conclude call p r.1 r.2 w) := fun w up => by
    rw [up]
    exact ((h frame w up).under _).bind fun _ _ => outlived_conclude ..
  -- The body still begins before the shutdown, which no description triggers.
  unfold Iteration.bodyRound Iteration.describe
  split
  · refine .note (fun down => ⟨by simpa using down, by simp [Event.Idle]⟩) ?_
    exact rest _ ((World.shutdown_write ..).trans up)
  · exact rest w up

theorem outlived_round (h : Body.Outlived body body') (index : Nat) (frame : Frame) (w : World) :
    Outlived w.shutdown (Iteration.round call plan loop? body index frame w)
      (Iteration.round call plan loop? body' index frame w) := by
  refine .note (fun down => ⟨down, by simp [Event.Idle]⟩) ?_
  by_cases down : w.shutdown = true
  · simp only [bind_done, down, if_true]
    exact down ▸ (outlived_sayLine ..).map _
  · have up : w.shutdown = false := by simpa using down
    simp only [bind_done, up, Bool.false_eq_true, if_false]
    exact up ▸ outlived_bodyRound h index _ up

/-- After the shutdown a loop is over with its next round. -/
theorem still_loop (has : Nat → Bool) (limit index : Nat) (frame : Frame) {w : World}
    (down : w.shutdown = true) :
    Still (loop has (Iteration.round call plan loop? body) (.ok true) (limit + 1) index frame w) := by
  by_cases one : has index = true
  · rw [loop_succ one]
    refine .note down (by simp [Event.Idle]) ?_
    simp only [bind_done, down, if_true]
    refine .note (by simpa using down) (by simp [Event.Idle]) (.done ?_)
    simpa using down
  · simp only [loop, one]
    exact .done down

theorem outlived_loop (h : Body.Outlived body body') (has : Nat → Bool) {limit more : Nat}
    (less : limit + 1 ≤ more) (index : Nat) (frame : Frame) (w : World) :
    Outlived w.shutdown
      (loop has (Iteration.round call plan loop? body) (.ok true) limit index frame w)
      (loop has (Iteration.round call plan loop? body') (.ok true) more index frame w) := by
  induction limit generalizing more index frame w with
  | zero =>
    obtain ⟨more, rfl⟩ := Nat.exists_eq_succ_of_ne_zero (Nat.ne_zero_of_lt less)
    exact .stuck (still_loop has more index frame)
  | succ limit ih =>
    obtain ⟨more, rfl⟩ := Nat.exists_eq_succ_of_ne_zero (Nat.ne_zero_of_lt less)
    by_cases one : has index = true
    · rw [loop_succ one, loop_succ one]
      refine (outlived_round h index frame w).bind fun r w => ?_
      cases r with
      | next frame => exact ih (Nat.le_of_succ_le_succ less) ..
      | stop answer frame => exact .done rfl
    · simp only [loop, one]
      exact .done rfl

theorem outlived_all (h : Body.Outlived body body') (loopName : String) {limit more : Nat}
    (less : limit + 1 ≤ more) (frame : Frame) (w : World) :
    Outlived w.shutdown (Iteration.all call loopName plan body limit frame w)
      (Iteration.all call loopName plan body' more frame w) :=
  (outlived_loop h _ less 0 frame w).bind fun _ _ => (outlived_tell (by simp)).map _

end Rounds

structure Engine.Outlived (e e' : Engine) : Prop where
  run : ∀ call frame w, Course.Outlived w.shutdown (e.run call frame w) (e'.run call frame w)
  limit : e.limit + 1 ≤ e'.limit

def Performer.Outlived (perform : Performer) : Prop :=
  ∀ e e', Engine.Outlived e e' → ∀ c args sink w, w.shutdown = false →
    Course.Outlived false (perform e c args sink w) (perform e' c args sink w)

section Actions

variable {perform : Performer} {e e' : Engine}

theorem outlived_block (h : Engine.Outlived e e') (call : Call) (names : List String)
    (frame : Frame) (w : World) :
    Outlived w.shutdown (Action.block e.run call names frame w)
      (Action.block e'.run call names frame w) := by
  induction names generalizing frame w with
  | nil => exact .done rfl
  | cons name names ih =>
    refine (h.run { call with action := name } frame w).bind fun r w => ?_
    obtain ⟨answer, frame⟩ := r
    match answer with
    | .ok true => exact ih frame w
    | .ok false | .error _ => exact .done rfl

theorem outlived_dispatch (performs : Performer.Outlived perform) (h : Engine.Outlived e e')
    (call : Call) :
    Body.Outlived (Action.dispatch perform e call) (Action.dispatch perform e' call) := by
  intro frame w up
  rw [← up]
  simp only [Action.dispatch]
  split
  · exact outlived_block h ..
  split
  · refine Outlived.map (.note (fun down => absurd down (by simp [up])) ?_) _
    rw [up]
    refine ((performs e e' h _ _ _ w up).under _).bind fun answer w => ?_
    rcases answer with _ | _
    · exact (outlived_tell (by simp)).map _
    · exact .done rfl
  split
  · exact h.run ..
  · exact (outlived_sayLine ..).map _

theorem outlived_carryOut (performs : Performer.Outlived perform) (h : Engine.Outlived e e')
    (call : Call) (d : Descriptor) (frame : Frame) (w : World) :
    Outlived w.shutdown (Action.carryOut perform e call d frame w)
      (Action.carryOut perform e' call d frame w) := by
  simp only [Action.carryOut]
  split
  · exact (outlived_sayLine ..).map _
  · refine Outlived.bind ((outlived_warn ..).bind fun _ w => outlived_postpone w _) fun _ w => ?_
    exact outlived_all (outlived_dispatch performs h _) _ h.limit frame w

theorem outlived_through {body body' : Sink → Body}
    (h : ∀ sink frame w, Outlived w.shutdown (body sink frame w) (body' sink frame w))
    (caller : Sink) (outlet : Outlet) (frame : Frame) (w : World) :
    Outlived w.shutdown (Action.through body caller outlet frame w)
      (Action.through body' caller outlet frame w) := by
  cases outlet with
  | caller => exact h ..
  | file _ => exact h ..
  | capture _ => exact ((h .text frame { w with text := "" }).underText w.text).map _

theorem shutdown_schedule (d : Descriptor) (frame : Frame) (w : World) :
    (Action.schedule d frame w).shutdown = w.shutdown := by
  obtain ⟨_, _, same⟩ := Action.schedule_eq d frame w
  rw [same]

theorem outlived_invoke (performs : Performer.Outlived perform) (h : Engine.Outlived e e')
    (call : Call) (frame : Frame) (w : World) :
    Outlived w.shutdown (Action.invoke perform e call frame w)
      (Action.invoke perform e' call frame w) := by
  refine .note (fun down => ⟨down, by simp [Event.Idle]⟩) ?_
  refine (outlived_resolve ..).bind fun r w => ?_
  obtain ⟨_ | outlet, frame⟩ := r
  · exact .done rfl
  refine Outlived.bind ((outlived_through (fun _ _ _ => outlived_carryOut performs h ..)
    ..).under _) fun r w => ?_
  obtain ⟨answer, frame⟩ := r
  rcases answer with _ | _ | _
  · exact .done rfl
  · exact .done rfl
  · exact .done (shutdown_schedule ..)

/-- After the shutdown an invocation comes to its end, as soon as its loop may turn once. -/
theorem still_invoke (turns : 1 ≤ e.limit) (call : Call) (frame : Frame) {w : World}
    (down : w.shutdown = true) : Still (Action.invoke perform e call frame w) := by
  have carried : ∀ (call : Call) (d : Descriptor) (frame : Frame) (w : World), w.shutdown = true →
      Still (Action.carryOut perform e call d frame w) := by
    intro call d frame w down
    obtain ⟨limit, same⟩ := Nat.exists_eq_succ_of_ne_zero (Nat.ne_zero_of_lt turns)
    simp only [Action.carryOut]
    split
    · exact ((outlived_sayLine ..).map _).still down
    · refine Still.bind (((outlived_warn ..).bind fun _ w => outlived_postpone w _).still down)
        fun _ w down => ?_
      rw [same]
      exact (still_loop _ limit 0 frame down).bind fun _ _ down =>
        ((outlived_tell (by simp)).map _).still down
  refine .note down (by simp [Event.Idle]) ?_
  have resolved := (outlived_resolve (.read frame.control call.action frame.vars) call.sink frame
    (w.count "actions.executed")).still down
  refine Still.bind resolved fun r w down => ?_
  obtain ⟨_ | outlet, frame⟩ := r
  · exact .done down
  refine Still.bind (Still.under ?_ _) fun r w down => ?_
  · cases outlet with
    | caller => exact carried _ _ _ _ down
    | file _ => exact carried _ _ _ _ down
    | capture _ =>
      exact ((carried _ _ frame { w with text := "" } down).underText w.text).bind
        fun _ _ down => .done down
  · obtain ⟨answer, frame⟩ := r
    rcases answer with _ | _ | _
    · exact .done down
    · exact .done down
    · exact .done ((shutdown_schedule ..).trans down)

/-- With two more steps every run goes further. -/
theorem outlived_runner (performs : Performer.Outlived perform) {steps more : Nat}
    (less : steps + 2 ≤ more) (call : Call) (frame : Frame) (w : World) :
    Outlived w.shutdown (Action.runner perform steps call frame w)
      (Action.runner perform more call frame w) := by
  -- One step more is for the invocation that is stuck in the smaller run, and one for the first
  -- turn of its loop, where it is interrupted.
  induction steps generalizing more call frame w with
  | zero =>
    obtain ⟨more, rfl⟩ : ∃ n, more = n + 1 := ⟨more - 1, by omega⟩
    exact .stuck fun down => still_invoke (Nat.le_of_succ_le_succ less) call frame down
  | succ steps ih =>
    obtain ⟨more, rfl⟩ : ∃ n, more = n + 1 := ⟨more - 1, by omega⟩
    have engines : Engine.Outlived ⟨Action.runner perform steps, steps⟩
        ⟨Action.runner perform more, more⟩ :=
      ⟨fun call frame w => ih (by omega) call frame w, by simp only; omega⟩
    exact outlived_invoke performs engines call frame w

end Actions

section Commands

theorem outlived_sleepFor (milliseconds : String) (w : World) :
    Outlived w.shutdown (Request.sleepFor milliseconds w) (Request.sleepFor milliseconds w) := by
  unfold Request.sleepFor World.sleep
  split
  · exact .done rfl
  · refine Outlived.map ?_ _
    split
    · exact .done rfl
    · exact (outlived_await ..).bind fun _ _ => .done rfl

theorem outlived_showTime (format : String) (sink : Sink) (w : World) :
    Outlived w.shutdown (Request.showTime format sink w) (Request.showTime format sink w) := by
  unfold Request.showTime
  split
  · exact (outlived_sayLine ..).map _
  · exact .done rfl

theorem outlived_showFilter (filter? : Option String) (sink : Sink) (w : World) :
    Outlived w.shutdown (Request.showFilter filter? sink w)
      (Request.showFilter filter? sink w) := by
  unfold Request.showFilter
  split
  · exact (outlived_sayLine ..).map _
  · split
    · exact .done rfl
    · rename_i filter _
      exact (outlived_sayLine { w with logFilter := filter } ..).map _

theorem outlived_onBench (request : Bench.Request) (sink : Sink) (w : World) :
    Outlived w.shutdown (Request.onBench request sink w) (Request.onBench request sink w) := by
  unfold Request.onBench
  split
  · rename_i text after _
    exact (outlived_say { w with bench := after } ..).map _
  · exact .done rfl

theorem outlived_quit (sink : Sink) (w : World) :
    Outlived w.shutdown (Request.shutDown sink w) (Request.shutDown sink w) :=
  (outlived_sayLine ..).bind fun _ _ =>
    Outlived.map (.note (fun _ => ⟨rfl, by simp [Event.Idle]⟩) (.done rfl)) _

theorem outlived_runFile {e e' : Engine} (h : Engine.Outlived e e') (path : String)
    (rest : List String) (sink : Sink) (w : World) :
    Outlived w.shutdown (Request.runFile e path rest sink w)
      (Request.runFile e' path rest sink w) := by
  unfold Request.runFile
  split
  · exact (outlived_sayLine ..).map _
  · exact ((h.run ..).map _).map _

/-- Every command goes further with an engine that does. -/
theorem outlived_perform : Performer.Outlived Command.perform := by
  intro e e' h c args sink w up
  rw [← up]
  unfold Command.perform
  split
  · rename_i request _
    unfold Request.perform
    cases request with
    | help name? => exact (outlived_sayLines ..).map _
    | echo words => exact (outlived_sayLine ..).map _
    | sleep milliseconds => exact outlived_sleepFor milliseconds w
    | currentTime format? => exact outlived_showTime _ sink w
    | controlFile path rest => exact outlived_runFile h path rest sink w
    | fail kind? words => exact .done rfl
    | quit => exact outlived_quit sink w
    | loggingLevel filter? => exact outlived_showFilter filter? sink w
    | bench request => exact outlived_onBench request sink w
  · exact (outlived_sayLines ..).map _

end Commands

end Runbook
