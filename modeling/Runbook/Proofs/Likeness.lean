import Runbook.Command.Perform
import Runbook.Proofs.Doubling
import Runbook.Proofs.Mirroring
/-! Two control files that say the same of all actions, but for what one of them runs. Where the
runs of that action mirror each other, all runs do. -/
namespace Runbook

open Course

/-- Control files that say the same of all actions, but for the target of one. -/
structure ControlFile.Like (a : String) (control control₀ : ControlFile) : Prop where
  modifier? : ∀ action m vars, control₀.modifier? action m vars = control.modifier? action m vars
  parameters : ∀ action vars, control₀.parameters action vars = control.parameters action vars
  target : ∀ action, action ≠ a → ∀ vars, control₀.target action vars = control.target action vars

namespace ControlFile.Like

variable {a : String} {control control₀ : ControlFile}

theorem refl (a : String) (control : ControlFile) : Like a control control :=
  ⟨fun _ _ _ => rfl, fun _ _ => rfl, fun _ _ _ => rfl⟩

theorem symm (h : Like a control control₀) : Like a control₀ control :=
  ⟨fun action m vars => (h.modifier? action m vars).symm,
    fun action vars => (h.parameters action vars).symm,
    fun action other vars => (h.target action other vars).symm⟩

theorem read (h : Like a control control₀) (action : String) (vars : Variables) :
    Descriptor.read control₀ action vars = .read control action vars := by
  simp only [Descriptor.read, h.modifier?]

end ControlFile.Like

def Frame.reading (frame : Frame) (control : ControlFile) : Frame := { frame with control }

/-- The same answer, and frames that differ in their control files alone. -/
structure Counterparts {α : Type} (control control₀ : ControlFile) (r r₀ : α × Frame) : Prop where
  own : r.2.control = control
  same : r₀ = (r.1, r.2.reading control₀)

inductive RoundsAlike (control control₀ : ControlFile) :
    Round Answer Frame → Round Answer Frame → Prop
  | next {frame : Frame} (own : frame.control = control) :
      RoundsAlike control control₀ (.next frame) (.next (frame.reading control₀))
  | stop {frame : Frame} (own : frame.control = control) (answer : Answer) :
      RoundsAlike control control₀ (.stop answer frame) (.stop answer (frame.reading control₀))

def Body.Mirrors (k : List Command × Bool) (control control₀ : ControlFile) (body body₀ : Body) :
    Prop :=
  ∀ frame w w₀, frame.control = control → w.Near w₀ → w.setting = k →
    Mirror k (Counterparts control control₀) (body frame w) (body₀ (frame.reading control₀) w₀)

section Parts

variable {k : List Command × Bool} {a : String} {control control₀ : ControlFile} {call : Call}
  {frame : Frame} {w w₀ : World}

theorem mirror_tell (near : w.Near w₀) (set : w.setting = k) (what : Happening) :
    Mirror k Eq (w.tell what) (w₀.tell what) := .note rfl (.done near set rfl)

theorem mirror_say (near : w.Near w₀) (set : w.setting = k) (sink : Sink) (text : String) :
    Mirror k Eq (w.say sink text) (w₀.say sink text) :=
  mirror_tell (near.write sink text) (by rw [World.setting_write, set]) _

theorem mirror_sayLine (near : w.Near w₀) (set : w.setting = k) (sink : Sink) (line : String) :
    Mirror k Eq (w.sayLine sink line) (w₀.sayLine sink line) := mirror_say near set sink _

theorem mirror_sayLines (near : w.Near w₀) (set : w.setting = k) (sink : Sink)
    (lines : List String) : Mirror k Eq (w.sayLines sink lines) (w₀.sayLines sink lines) := by
  induction lines generalizing w w₀ with
  | nil => exact .done near set rfl
  | cons line rest ih =>
    exact (mirror_sayLine near set sink line).bind fun _ _ _ _ _ near set => ih near set

theorem mirror_await (near : w.Near w₀) (reason : Wait) :
    Mirror k Eq (w.await reason) (w₀.await reason) :=
  .wait near.settle fun _ _ found set => .done found set rfl

theorem mirror_postpone (near : w.Near w₀) (set : w.setting = k) (time? : Option TimeOfDay) :
    Mirror k Eq (w.postpone time?) (w₀.postpone time?) := by
  obtain ⟨bench, _, rfl⟩ := id near
  unfold World.postpone World.pause
  split
  · split
    · exact .done near set rfl
    · exact mirror_await near _
  · exact .done near set rfl

theorem mirror_warn (near : w.Near w₀) (set : w.setting = k) (plan : Plan) :
    Mirror k Eq (Action.warn call plan w) (Action.warn call plan w₀) := by
  unfold Action.warn
  split
  · exact mirror_sayLine near set _ _
  · exact .done near set rfl

variable (like : ControlFile.Like a control control₀)
include like

theorem mirror_describe (own : frame.control = control) (near : w.Near w₀) (set : w.setting = k)
    (m : Modifier) :
    Mirror k Eq (Iteration.describe m call frame w)
      (Iteration.describe m call (frame.reading control₀) w₀) := by
  subst own
  simp only [Iteration.describe, Frame.reading, like.modifier?]
  split
  · exact mirror_sayLine near set _ _
  · exact .done near set rfl

theorem mirror_conclude (own : frame.control = control) (near : w.Near w₀) (set : w.setting = k)
    (p : Policy) (answer : Answer) :
    Mirror k (RoundsAlike control control₀) (Iteration.conclude call p answer frame w)
      (Iteration.conclude call p answer (frame.reading control₀) w₀) := by
  match answer with
  | .ok true => exact (mirror_describe like own near set _).map fun _ _ _ => .next own
  | .ok false => exact .done near set (.stop own _)
  | .error f =>
    simp only [Iteration.conclude, Iteration.settle]
    cases p.classify f call.throws with
    | terminate | propagate => exact .done near set (.stop own _)
    | ignore => exact .done near set (.next own)
    | report => exact (mirror_sayLine near set _ _).map fun _ _ _ => .stop own _

variable {body body₀ : Body} {plan : Plan} {loop? : Option LoopVariable}

/-- A body only runs as long as the shutdown has not been triggered. -/
theorem mirror_round (h : k.2 = false → Body.Mirrors k control control₀ body body₀)
    (own : frame.control = control) (near : w.Near w₀) (set : w.setting = k) (index : Nat) :
    Mirror k (RoundsAlike control control₀) (Iteration.round call plan loop? body index frame w)
      (Iteration.round call plan loop? body₀ index (frame.reading control₀) w₀) := by
  refine (mirror_tell near set _).bind fun _ _ w w₀ _ near set => ?_
  have shutdown : w₀.shutdown = w.shutdown := congrArg Prod.snd near.setting
  rw [shutdown]
  split
  · exact (mirror_sayLine near set _ _).map fun _ _ _ => .stop own _
  · have running : k.2 = false := by
      rw [← set]
      exact Bool.eq_false_iff.mpr ‹_›
    have bound : Iteration.bind loop? plan.iterations index (frame.reading control₀) =
        (Iteration.bind loop? plan.iterations index frame).reading control₀ := by
      cases loop? <;> rfl
    have own : (Iteration.bind loop? plan.iterations index frame).control = control := by
      cases loop? <;> exact own
    rw [bound]
    refine (mirror_describe like own near set _).bind fun _ _ w w₀ _ near set => ?_
    refine ((h running _ w w₀ own near set).under _ _).bind fun r r₀ w w₀ related near set => ?_
    obtain ⟨own, rfl⟩ := related
    exact mirror_conclude like own near set plan.policy r.1

/-- The second loop may go round more often. -/
theorem mirror_loop (h : k.2 = false → Body.Mirrors k control control₀ body body₀)
    (own : frame.control = control) (near : w.Near w₀) (set : w.setting = k) (has : Nat → Bool) {limit more : Nat}
    (le : limit ≤ more) (index : Nat) :
    Mirror k (Counterparts control control₀)
      (loop has (Iteration.round call plan loop? body) (.ok true) limit index frame w)
      (loop has (Iteration.round call plan loop? body₀) (.ok true) more index
        (frame.reading control₀) w₀) := by
  induction limit generalizing more index frame w w₀ with
  | zero => exact .stuck
  | succ limit ih =>
    obtain ⟨more, rfl⟩ : ∃ m, more = m + 1 := ⟨more - 1, by omega⟩
    by_cases one : has index = true
    · rw [loop_succ one, loop_succ one]
      refine (mirror_round like h own near set index).bind fun r r₀ w w₀ related near set => ?_
      cases related with
      | next own => exact ih own near set (by omega) (index + 1)
      | stop own answer => exact .done near set ⟨own, rfl⟩
    · simp only [loop, one]
      exact .done near set ⟨own, rfl⟩

theorem mirror_all (h : k.2 = false → Body.Mirrors k control control₀ body body₀)
    (own : frame.control = control) (near : w.Near w₀) (set : w.setting = k) (loopName : String) {limit more : Nat}
    (le : limit ≤ more) :
    Mirror k (Counterparts control control₀) (Iteration.all call loopName plan body limit frame w)
      (Iteration.all call loopName plan body₀ more (frame.reading control₀) w₀) := by
  refine (mirror_loop like h own near set _ le 0).bind fun r r₀ w w₀ related near set => ?_
  obtain ⟨own, rfl⟩ := related
  refine (mirror_tell near set _).map fun _ _ _ => ?_
  simp only [Iteration.saved?]
  split <;> exact ⟨own, rfl⟩

end Parts

def Runner.Mirrors (k : List Command × Bool) (M : ControlFile → ControlFile → Prop)
    (run run₀ : Runner) : Prop :=
  ∀ control control₀, M control control₀ → ∀ call,
    Body.Mirrors k control control₀ (run call) (run₀ call)

def Performer.Mirrors (k : List Command × Bool) (M : ControlFile → ControlFile → Prop)
    (perform : Performer) : Prop :=
  ∀ e e₀, Runner.Mirrors k M e.run e₀.run → ∀ c args sink w w₀, c ≠ .statisticsGet → w.Near w₀ →
    w.setting = k → Mirror k Eq (perform e c args sink w) (perform e₀ c args sink w₀)

section Actions

variable {k : List Command × Bool} {M : ControlFile → ControlFile → Prop} {perform : Performer}
  {e e₀ : Engine} {a : String} {control control₀ : ControlFile} {call : Call} {w w₀ : World}

theorem mirrors_block {run run₀ : Runner} (runs : Runner.Mirrors k M run run₀)
    (paired : M control control₀) (call : Call) (names : List String) :
    Body.Mirrors k control control₀ (Action.block run call names)
      (Action.block run₀ call names) := by
  induction names with
  | nil => exact fun frame w w₀ own near set => .done near set ⟨own, rfl⟩
  | cons name names ih =>
    intro frame w w₀ own near set
    refine (runs _ _ paired { call with action := name } frame w w₀ own near set).bind
      fun r r₀ w w₀ related near set => ?_
    obtain ⟨own, rfl⟩ := related
    obtain ⟨answer, frame⟩ := r
    match answer with
    | .ok true => exact ih frame w w₀ own near set
    | .ok false | .error _ => exact .done near set ⟨own, rfl⟩

theorem mirror_command (performs : Performer.Mirrors k M perform)
    (runs : Runner.Mirrors k M e.run e₀.run) (near : w.Near w₀) (set : w.setting = k) (c : Command)
    (args : List String) (sink : Sink) :
    Mirror k Eq (Action.command perform e c args sink w)
      (Action.command perform e₀ c args sink w₀) := by
  by_cases looks : c = .statisticsGet
  · exact .astray (.inr looks)
  · refine (mirror_tell near set _).bind fun _ _ w w₀ _ near set => ?_
    refine ((performs e e₀ runs c args sink w w₀ looks near set).under _ _).bind
      fun answer answer₀ w w₀ equal near set => ?_
    obtain rfl := equal
    match answer with
    | .ok _ => exact .done near set rfl
    | .error _ => exact (mirror_tell near set _).map fun _ _ _ => rfl

/-- What the target is the same for, runs alike. -/
theorem mirrors_dispatch (performs : Performer.Mirrors k M perform)
    (runs : Runner.Mirrors k M e.run e₀.run) (paired : M control control₀)
    (like : ControlFile.Like a control control₀)
    (target : ∀ vars, control₀.target call.action vars = control.target call.action vars) :
    Body.Mirrors k control control₀ (Action.dispatch perform e call)
      (Action.dispatch perform e₀ call) := by
  intro frame w w₀ own near set
  subst own
  have catalogue : w₀.catalogue = w.catalogue := congrArg Prod.fst near.setting
  simp only [Action.dispatch, Frame.reading, target, ControlFile.arguments, like.parameters,
    World.command?, catalogue]
  split
  · exact mirrors_block runs paired call _ frame w w₀ rfl near set
  split
  · exact (mirror_command performs runs near set _ _ _).map fun _ _ equal => equal ▸ ⟨rfl, rfl⟩
  split
  · exact runs _ _ paired { call with action := _ } frame w w₀ rfl near set
  · exact (mirror_sayLine near set _ _).map fun _ _ _ => ⟨rfl, rfl⟩

theorem openFile_reading (output : String) (frame : Frame) (w : World) (bench : Bench) :
    Outlet.openFile output (frame.reading control₀) { w with bench } =
      (Outlet.openFile output frame w).map fun r =>
        (r.1.reading control₀, { r.2 with bench }) := by
  unfold Outlet.openFile
  by_cases known : frame.opened.contains output = true
  · simp only [Frame.reading, known, if_true, Except.map]
  · simp only [Frame.reading, known]
    cases w.files.openAppend output <;> rfl

theorem mirror_resolve {frame : Frame} (own : frame.control = control) (near : w.Near w₀)
    (set : w.setting = k) (d : Descriptor) (caller : Sink) :
    Mirror k (Counterparts control control₀) (Outlet.resolve d caller frame w)
      (Outlet.resolve d caller (frame.reading control₀) w₀) := by
  unfold Outlet.resolve
  split
  · exact .done near set ⟨own, rfl⟩
  · exact .done near set ⟨own, rfl⟩
  · have warned : Mirror k Eq
        (if d.assignName?.isSome then w.sayLine caller (Outlet.assignIgnored d.name)
          else .done () w)
        (if d.assignName?.isSome then w₀.sayLine caller (Outlet.assignIgnored d.name)
          else .done () w₀) := by
      split
      · exact mirror_sayLine near set _ _
      · exact .done near set rfl
    refine warned.bind fun _ _ w w₀ _ near set => ?_
    obtain ⟨bench, differs, rfl⟩ := id near
    rw [openFile_reading]
    cases opened : Outlet.openFile _ frame w with
    | error fault => exact (mirror_sayLine near set _ _).map fun _ _ _ => ⟨own, rfl⟩
    | ok r =>
      obtain ⟨frame', w'⟩ := r
      obtain ⟨_, _, rfl, rfl⟩ := Outlet.openFile_eq_ok opened
      exact .done ⟨bench, differs, rfl⟩ set ⟨own, rfl⟩

theorem mirrors_capturing {body body₀ : Body} (name : String)
    (h : Body.Mirrors k control control₀ body body₀) :
    Body.Mirrors k control control₀ (Action.capturing name body)
      (Action.capturing name body₀) := by
  intro frame w w₀ own near set
  rw [Action.capturing_eq, Action.capturing_eq, collecting, collecting, near.text]
  have inside := h frame { w with text := "" } { w₀ with text := "" } own (near.withText "") set
  refine (inside.underText w.text).map fun r r₀ related => ?_
  obtain ⟨⟨answer, left⟩, text⟩ := r
  simp only at related
  obtain ⟨⟨own, same⟩, texts⟩ := related
  rw [same, texts]
  match answer with
  | .ok true | .ok false | .error _ => exact ⟨own, rfl⟩

theorem mirrors_through {body body₀ : Sink → Body}
    (h : ∀ sink, Body.Mirrors k control control₀ (body sink) (body₀ sink)) (caller : Sink)
    (outlet : Outlet) :
    Body.Mirrors k control control₀ (Action.through body caller outlet)
      (Action.through body₀ caller outlet) := by
  cases outlet with
  | caller | file => exact h _
  | capture name => exact mirrors_capturing name (h _)

variable (like : ControlFile.Like a control control₀) (le : e.limit ≤ e₀.limit)
  (dispatches : k.2 = false → ∀ sink throws, Body.Mirrors k control control₀
    (Action.dispatch perform e ⟨call.action, sink, throws⟩)
    (Action.dispatch perform e₀ ⟨call.action, sink, throws⟩))
include like le dispatches

theorem mirrors_carryOut (d : Descriptor) (sink : Sink) :
    Body.Mirrors k control control₀ (Action.carryOut perform e { call with sink } d)
      (Action.carryOut perform e₀ { call with sink } d) := by
  intro frame w w₀ own near set
  simp only [Action.carryOut]
  split
  · exact (mirror_sayLine near set _ _).map fun _ _ _ => ⟨own, rfl⟩
  · refine ((mirror_warn near set _).bind fun _ _ w w₀ _ near set =>
      mirror_postpone near set _).bind fun _ _ w w₀ _ near set => ?_
    exact mirror_all like (fun running => dispatches running _ _) own near set _ le

theorem mirrors_invokeThrough {d : Descriptor} (once : d.repeatEvery.bind Text.nonBlank = none)
    (outlet : Outlet) :
    Body.Mirrors k control control₀ (Action.invokeThrough perform e call d outlet)
      (Action.invokeThrough perform e₀ call d outlet) := by
  intro frame w w₀ own near set
  have carried := mirrors_through (mirrors_carryOut like le dispatches d) call.sink outlet
  refine ((carried frame w w₀ own near set).under _ _).bind fun r r₀ w w₀ related near set => ?_
  obtain ⟨own, rfl⟩ := related
  obtain ⟨answer, frame⟩ := r
  match answer with
  | .ok true =>
    simp only [schedule_eq_self once]
    exact .done near set ⟨own, rfl⟩
  | .ok false | .error _ => exact .done near set ⟨own, rfl⟩

theorem mirrors_invoke : Body.Mirrors k control control₀ (Action.invoke perform e call)
    (Action.invoke perform e₀ call) := by
  intro frame w w₀ own near set
  simp only [Action.invoke, show (frame.reading control₀).control = control₀ from rfl,
    show (frame.reading control₀).vars = frame.vars from rfl, like.read, own]
  by_cases once : (Descriptor.read control call.action frame.vars).repeatEvery.bind Text.nonBlank =
      none
  · refine (mirror_tell near.executed set _).bind fun _ _ w w₀ _ near set => ?_
    refine (mirror_resolve own near set _ call.sink).bind fun r r₀ w w₀ related near set => ?_
    obtain ⟨own, rfl⟩ := related
    obtain ⟨_ | outlet, frame⟩ := r
    · exact .done near set ⟨own, rfl⟩
    · exact mirrors_invokeThrough like le dispatches once outlet frame w w₀ own near set
  · exact .astray (.inr once)

end Actions

section Commands

variable {k : List Command × Bool} {M : ControlFile → ControlFile → Prop} {w w₀ : World}
  {sink : Sink}

theorem mirror_sleepFor (near : w.Near w₀) (set : w.setting = k) (milliseconds : String) :
    Mirror k Eq (Request.sleepFor milliseconds w) (Request.sleepFor milliseconds w₀) := by
  obtain ⟨bench, _, rfl⟩ := id near
  unfold Request.sleepFor World.sleep
  split
  · exact .done near set rfl
  · refine Mirror.map (R := Eq) ?_ (by rintro _ _ rfl; rfl)
    simp only
    split
    · exact .done near set rfl
    · refine (mirror_await near _).bind fun _ _ w w₀ _ near set => ?_
      obtain ⟨bench, _, rfl⟩ := id near
      exact .done near set rfl

theorem mirror_showTime (near : w.Near w₀) (set : w.setting = k) (format : String) :
    Mirror k Eq (Request.showTime format sink w) (Request.showTime format sink w₀) := by
  obtain ⟨bench, _, rfl⟩ := id near
  unfold Request.showTime
  simp only
  split
  · exact (mirror_sayLine near set _ _).map fun _ _ _ => rfl
  · exact .done near set rfl

theorem mirror_showFilter (near : w.Near w₀) (set : w.setting = k) (filter? : Option String) :
    Mirror k Eq (Request.showFilter filter? sink w) (Request.showFilter filter? sink w₀) := by
  obtain ⟨bench, differs, rfl⟩ := id near
  unfold Request.showFilter
  split
  · exact (mirror_sayLine near set _ _).map fun _ _ _ => rfl
  · split
    · exact .done near set rfl
    · rename_i filter _
      have changed : World.Near { w with logFilter := filter }
          { w with logFilter := filter, bench } := ⟨bench, differs, rfl⟩
      exact (mirror_sayLine changed set _ _).map fun _ _ _ => rfl

/-- Only one command looks at the counters. -/
theorem counts_read {c : Command} {args counted : List String}
    (h : Request.read c args = some (.bench (.counters counted))) : c = .statisticsGet := by
  unfold Request.read at h
  split at h <;> cases h <;> rfl

theorem mirror_onBench (near : w.Near w₀) (set : w.setting = k) {request : Bench.Request}
    (other : ∀ args, request ≠ .counters args) :
    Mirror k Eq (Request.onBench request sink w) (Request.onBench request sink w₀) := by
  obtain ⟨bench, differs, rfl⟩ := near
  obtain ⟨answer, b, b₀, ran, ran₀, differs⟩ := (differs.carryOut w.files other).elim
  simp only [Request.onBench, ran, ran₀]
  have changed : World.Near { w with bench := b } { w with bench := b₀ } := ⟨b₀, differs, rfl⟩
  cases answer with
  | ok text => exact (mirror_say changed set _ _).map fun _ _ _ => rfl
  | error f => exact .done changed set rfl

theorem mirror_shutDown (near : w.Near w₀) (set : w.setting = k) :
    Mirror k Eq (Request.shutDown sink w) (Request.shutDown sink w₀) := by
  refine (mirror_sayLine near set _ _).bind fun _ _ w w₀ _ near set => ?_
  obtain ⟨bench, differs, rfl⟩ := near
  have down : w.shutDown.Near (World.shutDown { w with bench }) := ⟨bench, differs, rfl⟩
  by_cases same : w.shutDown.setting = k
  · exact (mirror_tell down same _).map fun _ _ _ => rfl
  · exact .astray (.inl same)

theorem mirror_runFile {e e₀ : Engine} (same : ∀ control, M control control)
    (runs : Runner.Mirrors k M e.run e₀.run) (near : w.Near w₀) (set : w.setting = k)
    (path : String) (rest : List String) :
    Mirror k Eq (Request.runFile e path rest sink w) (Request.runFile e₀ path rest sink w₀) := by
  have files : w₀.files = w.files := by
    obtain ⟨_, _, rfl⟩ := near
    rfl
  simp only [Request.runFile, files]
  split
  · exact (mirror_sayLine near set _ _).map fun _ _ _ => rfl
  · rename_i text _
    obtain ⟨action, vars⟩ := Request.actionAndVariables rest
    have ran := runs _ _ (same _) ⟨action, sink, false⟩ (.fresh (.parse text) vars) w w₀ rfl near set
    refine Mirror.map (R := fun r r₀ => r.1 = r₀.1) (ran.map fun r r₀ related => ?_)
      fun _ _ equal => equal
    rw [related.same]

/-- Every command mirrors itself, but that for the counters. -/
theorem mirrors_perform (same : ∀ control, M control control) :
    Performer.Mirrors k M Command.perform := by
  intro e e₀ runs c args sink w w₀ other near set
  unfold Command.perform
  split
  · rename_i request read
    unfold Request.perform
    cases request with
    | help name? =>
      have catalogue : w₀.catalogue = w.catalogue := congrArg Prod.fst near.setting
      simp only [catalogue]
      exact (mirror_sayLines near set _ _).map fun _ _ _ => rfl
    | echo words => exact (mirror_sayLine near set _ _).map fun _ _ _ => rfl
    | sleep milliseconds => exact mirror_sleepFor near set milliseconds
    | currentTime format? => exact mirror_showTime near set _
    | controlFile path rest => exact mirror_runFile same runs near set path rest
    | fail kind? words => exact .done near set rfl
    | quit => exact mirror_shutDown near set
    | loggingLevel filter? => exact mirror_showFilter near set filter?
    | bench request =>
      exact mirror_onBench near set fun counted counts => other (counts_read (counts ▸ read))
  · exact (mirror_sayLines near set _ _).map fun _ _ _ => rfl

end Commands

def Pairing (control control₀ : ControlFile) (c c₀ : ControlFile) : Prop :=
  c₀ = c ∨ c = control ∧ c₀ = control₀

/-- Where the two control files mirror each other in the one action, they do in every action. -/
theorem mirrors_step {k : List Command × Bool} {a : String} {control control₀ : ControlFile}
    {e e₀ : Engine} (like : ControlFile.Like a control control₀)
    (runs : Runner.Mirrors k (Pairing control control₀) e.run e₀.run) (le : e.limit ≤ e₀.limit)
    (targets : k.2 = false → ∀ sink throws, Body.Mirrors k control control₀
      (Action.dispatch Command.perform e ⟨a, sink, throws⟩)
      (Action.dispatch Command.perform e₀ ⟨a, sink, throws⟩)) {c c₀ : ControlFile}
    (paired : Pairing control control₀ c c₀) (call : Call) :
    Body.Mirrors k c c₀ (Action.invoke Command.perform e call)
      (Action.invoke Command.perform e₀ call) := by
  have performs : Performer.Mirrors k (Pairing control control₀) Command.perform :=
    mirrors_perform fun _ => .inl rfl
  rcases id paired with rfl | ⟨rfl, rfl⟩
  · have like := ControlFile.Like.refl a c₀
    exact mirrors_invoke like le fun _ _ _ =>
      mirrors_dispatch performs runs paired like fun _ => rfl
  · refine mirrors_invoke like le fun running sink throws => ?_
    by_cases own : call.action = a
    · exact own ▸ targets running sink throws
    · exact mirrors_dispatch performs runs paired like (like.target _ own)

end Runbook
