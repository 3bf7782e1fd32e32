import Runbook.Proofs.Outliving
/-! The shutdown: from the moment in which it is triggered no command is started, runs come to
their end, and what is still invoked leaves the runtime alone. -/
namespace Runbook

open Course

section Paths

variable {α : Type} {down : Bool} {c c' d d' : Course World α} {w : World}
  {path q : List (Step World)}

def lastState : World → List (Step World) → World
  | w, [] => w
  | _, step :: rest => lastState step.state rest

/-- The shutdown is not taken back while a run waits. -/
def Persists (path : List (Step World)) : Prop :=
  ∀ reason s now, .waited reason s now ∈ path → s.shutdown = true → now.shutdown = true

theorem Persists.tail {step : Step World} (h : Persists (step :: path)) : Persists path :=
  fun reason s now member => h reason s now (List.mem_cons_of_mem step member)

theorem Persists.left (h : Persists (path ++ q)) : Persists path := fun reason s now member =>
  h reason s now (List.mem_append_left q member)

theorem Persists.right (h : Persists (path ++ q)) : Persists q := fun reason s now member =>
  h reason s now (List.mem_append_right path member)

theorem persists_under {layer : Layer} : Persists (path.map (Step.under layer)) ↔ Persists path := by
  have same : ∀ reason s now, .waited reason s now ∈ path.map (Step.under layer) ↔
      .waited reason s now ∈ path := by
    intro reason s now
    rw [List.mem_map]
    constructor
    · rintro ⟨step, member, under⟩
      cases step with
      | event => cases under
      | waited => cases under; exact member
    · exact fun member => ⟨_, member, rfl⟩
  simp only [Persists, same]

/-- What a course does, one that outlives it does as well. -/
theorem Course.Outlived.reaches (h : Outlived down c d) (reached : c.Reaches path c')
    (persists : Persists path) (same : w.shutdown = down) :
    ∃ d', d.Reaches path d' ∧ Outlived (lastState w path).shutdown c' d' := by
  induction reached generalizing down d w with
  | here => exact ⟨d, .here, same ▸ h⟩
  | note _ ih =>
    cases h with
    | note _ rest =>
      obtain ⟨d', reached, related⟩ := ih rest persists.tail rfl
      exact ⟨d', .note reached, related⟩
  | wait _ ih =>
    cases h with
    | wait same rest =>
      have kept := persists _ _ _ List.mem_cons_self
      obtain ⟨d', reached, related⟩ := ih (rest _ fun down => kept (same.trans down)) persists.tail rfl
      exact ⟨d', .wait reached, related⟩

/-- A course that comes to its end does so wherever it is, and starts no command until then. -/
theorem Course.Still.reaches (h : Still d) (reached : d.Reaches path d')
    (persists : Persists path) : Still d' ∧ ∀ e ∈ events path, e.Idle := by
  induction reached with
  | here => exact ⟨h, by simp⟩
  | note _ ih =>
    cases h with
    | note _ idle rest =>
      obtain ⟨still, idles⟩ := ih rest persists.tail
      exact ⟨still, by simpa using ⟨idle, idles⟩⟩
  | wait _ ih =>
    cases h with
    | wait down rest =>
      obtain ⟨still, idles⟩ := ih (rest _ (persists _ _ _ List.mem_cons_self down)) persists.tail
      exact ⟨still, by simpa using idles⟩

theorem Course.Still.ne_stuck (h : Still d) : d ≠ .stuck := by
  rintro rfl
  cases h

/-- A course that comes to its end is outlived by one that does nothing else. -/
theorem Course.Outlived.ends_iff (h : Outlived true c d) (still : Still c) (persists : Persists path)
    {a : α} {s : World} : c.Ends path a s ↔ d.Ends path a s := by
  constructor
  · intro ends
    obtain ⟨d', reached, related⟩ := h.reaches (w := { s with shutdown := true }) ends persists rfl
    cases related
    exact reached
  · intro ends
    -- The smaller course is not stuck anywhere, since it comes to its end as well.
    obtain ⟨last, same, reached⟩ : ∃ d', d' = Course.done a s ∧ d.Reaches path d' := ⟨_, rfl, ends⟩
    clear ends
    induction reached generalizing c with
    | here =>
      subst same
      cases h with
      | stuck => exact absurd rfl still.ne_stuck
      | done _ => exact .here
    | note _ ih =>
      cases h with
      | stuck => exact absurd rfl still.ne_stuck
      | note kept rest =>
        cases still with
        | note down _ still => exact .note (ih (down ▸ rest) still persists.tail same)
    | wait _ ih =>
      cases h with
      | stuck => exact absurd rfl still.ne_stuck
      | wait _ rest =>
        cases still with
        | wait down still =>
          have later := persists _ _ _ List.mem_cons_self down
          exact .wait (ih (later ▸ rest _ fun _ => later) (still _ later) persists.tail same)

end Paths

section Invocations

/-- The same world, but for what has been written. -/
def SameRuntime (w w' : World) : Prop :=
  ∃ files text console, w' = { w with files, text, console }

/-- From a world to another one a path changes nothing but what is written; while it waits,
operations in the background come to their end, and others may do what they like. -/
def Unchanged : World → List (Step World) → World → Prop
  | w, [], w' => SameRuntime w w'
  | w, .event _ s :: rest, w' => SameRuntime w s ∧ Unchanged s rest w'
  | w, .waited _ s now :: rest, w' =>
    (∃ v, SameRuntime w v ∧ SameRuntime v.settle s) ∧ Unchanged now rest w'

variable {w w₁ w' : World} {path rest : List (Step World)}

theorem SameRuntime.refl (w : World) : SameRuntime w w := ⟨w.files, w.text, w.console, rfl⟩

theorem SameRuntime.trans (h : SameRuntime w w₁) (h' : SameRuntime w₁ w') : SameRuntime w w' := by
  obtain ⟨_, _, _, rfl⟩ := h
  obtain ⟨files, text, console, rfl⟩ := h'
  exact ⟨files, text, console, rfl⟩

theorem SameRuntime.symm (h : SameRuntime w w') : SameRuntime w' w := by
  obtain ⟨_, _, _, rfl⟩ := h
  exact ⟨w.files, w.text, w.console, rfl⟩

theorem sameRuntime_withText (w : World) (text : String) : SameRuntime w { w with text } :=
  ⟨w.files, text, w.console, rfl⟩

theorem sameRuntime_write (w : World) (sink : Sink) (text : String) :
    SameRuntime w (w.write sink text) := by
  cases sink <;> exact ⟨_, _, _, rfl⟩

theorem SameRuntime.shutdown (h : SameRuntime w w') : w'.shutdown = w.shutdown := by
  obtain ⟨_, _, _, rfl⟩ := h
  rfl

theorem Unchanged.after (h : SameRuntime w w₁) (h' : Unchanged w₁ path w') :
    Unchanged w path w' := by
  cases path with
  | nil => exact h.trans h'
  | cons step path =>
    cases step with
    | event e s => exact ⟨h.trans h'.1, h'.2⟩
    | waited reason s now =>
      obtain ⟨⟨v, same, settled⟩, later⟩ := h'
      exact ⟨⟨v, h.trans same, settled⟩, later⟩

theorem Unchanged.down (h : Unchanged w path w') (persists : Persists path)
    (down : w.shutdown = true) : w'.shutdown = true := by
  induction path generalizing w with
  | nil => exact h.shutdown.trans down
  | cons step path ih =>
    cases step with
    | event e s => exact ih h.2 persists.tail (h.1.shutdown.trans down)
    | waited reason s now =>
      obtain ⟨⟨v, same, settled⟩, later⟩ := h
      have before : s.shutdown = true :=
        settled.shutdown.trans (same.shutdown.trans down)
      exact ih later persists.tail (persists _ _ _ List.mem_cons_self before)

theorem Unchanged.append (h : Unchanged w path w₁) (h' : Unchanged w₁ rest w') :
    Unchanged w (path ++ rest) w' := by
  induction path generalizing w with
  | nil => exact h'.after h
  | cons step path ih =>
    cases step with
    | event e s => exact ⟨h.1, ih h.2⟩
    | waited reason s now => exact ⟨h.1, ih h.2⟩

theorem Unchanged.under (h : Unchanged w path w') (layer : Layer) :
    Unchanged w (path.map (Step.under layer)) w' := by
  induction path generalizing w with
  | nil => exact h
  | cons step path ih =>
    cases step with
    | event e s => exact ⟨h.1, ih h.2⟩
    | waited reason s now => exact ⟨h.1, ih h.2⟩

theorem Said.unchanged {sink : Sink} (h : Said sink w path w') : Unchanged w path w' := by
  cases h with
  | nothing => exact .refl w
  | line text => exact ⟨sameRuntime_write .., .refl _⟩

theorem Course.Alike.unchanged (alike : Alike path rest) (h : Unchanged w path w') :
    Unchanged w rest w' := by
  induction alike generalizing w with
  | nil => exact h
  | event _ ih => exact ⟨h.1.trans (sameRuntime_withText ..), (ih h.2).after (sameRuntime_withText ..).symm⟩
  | waited _ ih =>
    obtain ⟨⟨v, same, settled⟩, later⟩ := h
    exact ⟨⟨v, same, settled.trans (sameRuntime_withText ..)⟩,
      (ih later).after (sameRuntime_withText ..)⟩

/-- A course that waits where another one does finds the shutdown where that one does. -/
theorem Course.Alike.persists (alike : Alike path rest) (h : Persists rest) : Persists path := by
  induction alike with
  | nil => exact h
  | event _ ih =>
    intro reason s now member
    exact ih h.tail reason s now (by simpa using member)
  | waited _ ih =>
    intro reason s now member down
    rcases List.mem_cons.mp member with here | member
    · have found := h _ _ _ List.mem_cons_self
      cases here
      exact found down
    · exact ih h.tail reason s now member down

end Invocations

section Late

variable {perform : Performer} {e : Engine} {call : Call} {frame : Frame} {w w₁ w' : World}
  {path : List (Step World)} {r : Answer × Frame} {d : Descriptor}

/-- What an action comes to that is carried out after the shutdown: nothing goes beyond it, and it
has succeeded only where there was nothing to do. -/
structure Late (d : Descriptor) (w : World) (path : List (Step World)) (answer : Answer)
    (w' : World) : Prop where
  unchanged : Unchanged w path w'
  idle : answer = .ok false ∨
    answer = .ok true ∧ ∃ plan, Plan.resolve d = .ok plan ∧ plan.iterations.has 0 = false

theorem late_carried (down : w.shutdown = true) (persists : Persists path)
    (h : Action.Carried perform e call d frame w path r w') : Late d w path r.1 w' := by
  cases h with
  | unplanned _ said => exact ⟨said.unchanged, .inl rfl⟩
  | @ran plan before pause inside w₁ w₂ _ answer left planned warned waited went =>
    have told : Unchanged w before w₁ := warned.unchanged
    have paused : Unchanged w₁ pause w₂ := by
      rcases waited with ⟨rfl, rfl⟩ | ⟨reason, rfl⟩
      · exact .refl _
      · exact ⟨⟨w₁, .refl _, .refl _⟩, .refl _⟩
    rw [← List.append_assoc] at persists ⊢
    have before := told.append paused
    have down₂ := before.down persists.left down
    -- Rounds run their bodies before the shutdown only: the loop has no round, or is interrupted.
    cases went with
    | ended none =>
      have ended : Unchanged w' [.event ⟨[], .finished (.ok true)⟩ w'] w' := ⟨.refl _, .refl _⟩
      exact ⟨by simpa using before.append ended, .inr ⟨rfl, plan, planned, none⟩⟩
    | next _ went _ => cases Iteration.rounded went with | ran running => simp [down₂] at running
    | stopped _ went =>
      cases Iteration.rounded went with
      | interrupted _ said =>
        have turned : Unchanged w₂ [.event ⟨[], .turned 0⟩ w₂] w₂ := ⟨.refl _, .refl _⟩
        have ended : Unchanged w' [.event ⟨[], .finished (.ok false)⟩ w'] w' := ⟨.refl _, .refl _⟩
        have whole := before.append (turned.append (said.unchanged.append ended))
        exact ⟨by simpa using whole, .inl rfl⟩
      | ran running => simp [down₂] at running

theorem Unchanged.of_same (h : Unchanged w path w₁) (same : SameRuntime w₁ w') :
    Unchanged w path w' := by
  rw [← List.append_nil path]
  exact h.append same

theorem Outlet.Resolved.unchanged {caller : Sink} {o : Option Outlet × Frame}
    (h : Outlet.Resolved d caller frame w path o w') : Unchanged w path w' := by
  cases h with
  | caller | capture => exact .refl w
  | @file _ _ told _ _ _ warned opened =>
    obtain ⟨_, files, _, rfl⟩ := Outlet.openFile_eq_ok opened
    exact warned.unchanged.of_same ⟨files, told.text, told.console, rfl⟩
  | refused _ warned said => exact warned.unchanged.append said.unchanged

theorem late_went {caller : Sink} {outlet : Outlet} (down : w.shutdown = true)
    (persists : Persists path)
    (h : Action.Went (fun sink => Action.carryOut perform e { call with sink } d) caller outlet
      frame w path r w') : Late d w path r.1 w' := by
  cases h with
  | plain _ ran => exact late_carried down persists (Action.carried ran)
  | @captured _ _ inside _ _ w₁ _ _ ran alike rest =>
    have late := late_carried (w := { w with text := "" }) down (alike.persists persists)
      (Action.carried ran)
    have shown := (alike.unchanged late.unchanged).after (sameRuntime_withText w "")
    exact ⟨shown.of_same (rest ▸ sameRuntime_withText w₁ _), late.idle⟩

/-- An invocation after the shutdown raises no failure, and leaves the runtime alone but for its
count and, where it has nothing to do, for the repetition that it asks for. -/
theorem late_ran (down : w.shutdown = true) (persists : Persists path)
    (h : Action.Ran perform e call frame w path r w')
    (read : d = .read frame.control call.action frame.vars) :
    ∃ success w₁, r.1 = .ok success ∧ Unchanged (w.count "actions.executed") path w₁ ∧
      (success = false ∧ w' = w₁ ∨
        success = true ∧ ∃ plan, Plan.resolve d = .ok plan ∧ plan.iterations.has 0 = false ∧
          w' = match plan.every with
            | some interval => w₁.repeatAction d.name r.2 interval
            | none => w₁) := by
  have counted : (w.count "actions.executed").shutdown = true := down
  cases h with
  | refused read' resolved =>
    exact ⟨false, w', rfl, ⟨.refl _, resolved.unchanged⟩, .inl ⟨rfl, rfl⟩⟩
  | @ran d' outlet path inside opened left answer w₁ w₂ read' resolved went =>
    obtain rfl : d' = d := read'.trans read.symm
    have before := resolved.unchanged
    have down₁ := before.down persists.tail.left counted
    have late := late_went down₁ (persists_under.mp persists.tail.right) went
    have whole := before.append (late.unchanged.under (.action ⟨d', outlet⟩))
    obtain rfl | ⟨rfl, plan, planned, nothing⟩ : answer = .ok false ∨ _ := late.idle
    · exact ⟨false, w₂, rfl, ⟨.refl _, whole⟩, .inl ⟨rfl, rfl⟩⟩
    · refine ⟨true, w₂, rfl, ⟨.refl _, whole⟩, .inr ⟨rfl, plan, planned, nothing, ?_⟩⟩
      cases every : plan.every <;>
        simp [Action.scheduled, Action.schedule, planned, Except.toOption, every]

end Late

/-- From the moment in which the shutdown is triggered a run starts no command any more. It is over
after finitely many further steps: the bound of the run does not stop it there once that is a
little larger, and a still larger one makes no difference. What is invoked after that moment raises
no failure, and leaves the runtime alone but for its count and, where it has nothing to do, for the
repetition that it asks for. -/
theorem over_after_shutdown (bound : Nat) (call : Call) (frame : Frame) (w : World) :
    (∀ path q c, (Action.runner Command.perform bound call frame w).Reaches (path ++ q) c →
      Persists (path ++ q) → (lastState w path).shutdown = true → ∀ e ∈ events q, e.Idle) ∧
    (∀ path c, (Action.runner Command.perform bound call frame w).Reaches path c →
      Persists path → (lastState w path).shutdown = true →
      ∃ d, (Action.runner Command.perform (bound + 2) call frame w).Reaches path d ∧ Still d ∧
        ∀ more ≥ bound + 4, ∃ d', (Action.runner Command.perform more call frame w).Reaches path d' ∧
          Still d' ∧ ∀ q r w', Persists q → (d.Ends q r w' ↔ d'.Ends q r w')) ∧
    (w.shutdown = true → ∀ path r w',
      (Action.runner Command.perform bound call frame w).Ends path r w' → Persists path →
      ∃ success w₁, r.1 = .ok success ∧ Unchanged (w.count "actions.executed") path w₁ ∧
        (success = false ∧ w' = w₁ ∨
          success = true ∧ ∃ plan,
            Plan.resolve (.read frame.control call.action frame.vars) = .ok plan ∧
            plan.iterations.has 0 = false ∧
            w' = match plan.every with
              | some interval => w₁.repeatAction call.action r.2 interval
              | none => w₁)) := by
  have outlived (steps more : Nat) (less : steps + 2 ≤ more) :=
    outlived_runner outlived_perform less call frame w
  refine ⟨fun path q c reached persists down => ?_, fun path c reached persists down => ?_,
    fun down path r w' ends persists => ?_⟩
  · obtain ⟨c', first, second⟩ := reaches_append.mp reached
    obtain ⟨d, _, further⟩ := (outlived bound _ (Nat.le_refl _)).reaches first persists.left rfl
    obtain ⟨d', along, _⟩ := further.reaches second persists.right rfl
    exact ((further.still down).reaches along persists.right).2
  · obtain ⟨d, along, further⟩ := (outlived bound _ (Nat.le_refl _)).reaches reached persists rfl
    refine ⟨d, along, further.still down, fun more less => ?_⟩
    obtain ⟨d', along', further'⟩ :=
      (outlived (bound + 2) more less).reaches along persists rfl
    rw [down] at further'
    exact ⟨d', along', further'.still rfl, fun q r w' persists =>
      further'.ends_iff (further.still down) persists⟩
  · cases bound with
    | zero => simp [Action.runner] at ends
    | succ bound => exact late_ran down persists (Action.ran ends) rfl

end Runbook
