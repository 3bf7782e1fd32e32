import Runbook.Proofs.Lifecycle
/-! What becomes of the last operation when it is carried out. A failure leaves it as it was
submitted, and a success adds to its answer what the storage answers; so its answer has all that
was answered since it was forgotten. -/
namespace Runbook

def Operation.completed (o : Operation) (results : List Value) : Operation :=
  { o with answer := o.answer ++ results, executions := o.executions + 1 }

namespace Bench

def yields (b : Bench) (files : FileTree) (kind : OperationKind) : Except Failure (List Value) :=
  match b.selectedStorage with
  | .error f => .error f
  | .ok (_, number) =>
    match b.storage? number with
    | none => .error noneSelected
    | some s => (s.run files b.objects kind).1.map Prod.fst

/-- The last operation is carried out again and again with success. Each time it is told whether the
answer was forgotten before, and what the storage answered. Everything but the last operation may be
changed in between. -/
inductive Repeats : Bench → List (Bool × List Value) → Bench → Prop
  | none {b : Bench} : Repeats b [] b
  | again {b b' : Bench} {files : FileTree} {forgets : Bool} {o : Operation}
      {results : List Value} {rounds : List (Bool × List Value)} (last : b.last = some o)
      (yields : b.yields files o.kind = .ok results)
      (later : Repeats (b.executeAgain files forgets).2 rounds b') :
      Repeats b ((forgets, results) :: rounds) b'
  | other {b b₁ b' : Bench} {rounds : List (Bool × List Value)} (kept : b₁.last = b.last)
      (later : Repeats b₁ rounds b') : Repeats b rounds b'

variable {b b' : Bench} {files : FileTree} {o done : Operation} {f : Failure}
  {results : List Value} {rounds : List (Bool × List Value)}

/-- What an operation changes when it is carried out on a storage. -/
theorem runOn_frame (b : Bench) (files : FileTree) (number : Nat) (o : Operation) :
    ∃ objects storages statistics,
      (b.runOn files number o).2 = { b with objects, storages, statistics } := by
  unfold runOn
  split
  · exact ⟨_, _, _, rfl⟩
  · simp only
    split <;> exact ⟨_, _, _, rfl⟩

/-- An operation that is carried out on a storage has the results of one more execution. -/
theorem runOn_eq (b : Bench) (files : FileTree) (number : Nat) (o : Operation) :
    (b.runOn files number o).1 = match b.storage? number with
      | none => .error noneSelected
      | some s => (s.run files b.objects o.kind).1.map fun p => o.completed p.1 := by
  cases found : b.storage? number with
  | none => simp only [runOn, found]
  | some s =>
    cases ran : s.run files b.objects o.kind with
    | mk result objects =>
      simp only [runOn, found, ran]
      cases result <;> rfl

/-- An operation comes to what the selected storage answers. -/
theorem execute_eq (b : Bench) (files : FileTree) (o : Operation) :
    (b.execute files o).1 = (b.yields files o.kind).map o.completed := by
  cases found : b.selectedStorage with
  | error f =>
    simp only [execute, yields, found]
    rfl
  | ok place =>
    have ran := runOn_eq { b with last := some o } files place.2 o
    have same : (b.execute files o).1 = ({ b with last := some o }.runOn files place.2 o).1 := by
      simp only [execute, found]
      split <;> simp [*]
    rw [same, ran]
    simp only [yields, found, storage?]
    cases b.storages[place.2]? with
    | none => rfl
    | some s =>
      simp only
      cases (s.run files b.objects o.kind).1 <;> rfl

/-- The last operation is the submitted one, until it is completed. -/
theorem last_execute (selected : b.hasSelected = true) (files : FileTree) (o : Operation) :
    (b.execute files o).2.last = some ((b.execute files o).1.toOption.getD o) := by
  cases found : b.selectedStorage with
  | error f => simp [hasSelected, found, Except.toOption] at selected
  | ok place =>
    obtain ⟨_, _, _, frame⟩ := runOn_frame { b with last := some o } files place.2 o
    simp only [execute, found]
    split <;> rename_i ran
    · rfl
    · rw [ran] at frame
      rw [frame]
      rfl

theorem hasSelected_of_yields (yields : b.yields files o.kind = .ok results) :
    b.hasSelected = true := by
  cases found : b.selectedStorage with
  | error f => simp [Bench.yields, found] at yields
  | ok place => simp [hasSelected, found, Except.toOption]

theorem execute_completed (yields : b.yields files o.kind = .ok results) :
    (b.execute files o).1 = .ok (o.completed results) ∧
      (b.execute files o).2.last = some (o.completed results) := by
  have result := execute_eq b files o
  have last := last_execute (hasSelected_of_yields yields) files o
  rw [yields] at result
  rw [result] at last
  exact ⟨result, last⟩

theorem execute_failed (selected : b.hasSelected = true)
    (yields : b.yields files o.kind = .error f) :
    (b.execute files o).1 = .error f ∧ (b.execute files o).2.last = some o := by
  have result := execute_eq b files o
  have last := last_execute selected files o
  rw [yields] at result
  rw [result] at last
  exact ⟨result, last⟩

/-- What an answer becomes by one execution after the other: it has all results since it was
forgotten for the last time. -/
structure Answered (answer : List Value) (rounds : List (Bool × List Value))
    (after : List Value) : Prop where
  forgotten : ∀ before results later, rounds = before ++ (true, results) :: later →
    (∀ round ∈ later, round.1 = false) → after = results ++ later.flatMap Prod.snd
  kept : (∀ round ∈ rounds, round.1 = false) → after = answer ++ rounds.flatMap Prod.snd

theorem answered_nil (answer : List Value) : Answered answer [] answer :=
  ⟨by simp, by simp⟩

theorem Answered.cons {answer after : List Value} {forgets : Bool}
    (h : Answered ((if forgets then [] else answer) ++ results) rounds after) :
    Answered answer ((forgets, results) :: rounds) after where
  forgotten before rs later whole none := by
    cases before with
    | nil =>
      cases whole
      simpa using h.kept none
    | cons _ before =>
      cases whole
      exact h.forgotten before rs later rfl none
  kept none := by
    obtain ⟨rfl, others⟩ := List.forall_mem_cons.mp none
    simpa using h.kept others

theorem executeAgain_completed {forgets : Bool} (last : b.last = some o)
    (yields : b.yields files o.kind = .ok results) :
    let o := if forgets then o.forget else o
    (b.executeAgain files forgets).1 = .ok (o.completed results) ∧
      (b.executeAgain files forgets).2.last = some (o.completed results) := by
  simp only [executeAgain, last]
  refine execute_completed ?_
  cases forgets <;> exact yields

theorem Repeats.last (h : b.Repeats rounds b') (last : b.last = some o) :
    ∃ done, b'.last = some done ∧ done.kind = o.kind ∧
      done.executions = o.executions + rounds.length ∧ Answered o.answer rounds done.answer := by
  induction h generalizing o with
  | none => exact ⟨o, last, rfl, rfl, answered_nil o.answer⟩
  | other kept _ ih => exact ih (kept.trans last)
  | @again b b' files forgets o' results rounds known yields _ ih =>
    cases last.symm.trans known
    obtain ⟨done, last', kind, executions, answered⟩ := ih (executeAgain_completed known yields).2
    refine ⟨done, last', ?_, ?_, .cons ?_⟩
    · rw [kind]
      cases forgets <;> rfl
    · rw [executions, List.length_cons]
      cases forgets <;> simp [Operation.completed, Operation.forget] <;> omega
    · cases forgets <;> exact answered

/-- Of a bench that has been used, and of any operation. Where no storage is selected the operation
fails and nothing changes. Where one is selected and fails, the last operation is the one that was
submitted; where it answers, the last operation is the submitted one, executed once more, with what
was answered behind its answer. When an operation is carried out again and again with success, its
executions are counted, and its answer has all results since it was forgotten for the last time. -/
theorem executions_accumulate (changes : List Change) (files : FileTree) (o : Operation) :
    let b := Bench.fresh.after changes
    (b.selected = none →
      b.execute files o = (.error noneSelected, b) ∧ noneSelected.kind = .illegalState) ∧
    (∀ index, b.selected = some index → ∃ number s, b.running[index]? = some number ∧
      b.storage? number = some s ∧
      let answer := (s.run files b.objects o.kind).1.map Prod.fst
      b.yields files o.kind = answer ∧
      (∀ f, answer = .error f →
        (b.execute files o).1 = .error f ∧ (b.execute files o).2.last = some o) ∧
      ∀ results, answer = .ok results →
        let done : Operation :=
          { o with answer := o.answer ++ results, executions := o.executions + 1 }
        (b.execute files o).1 = .ok done ∧ (b.execute files o).2.last = some done) ∧
    (b.last = some o → ∀ forgets, ((∃ done, (b.executeAgain files forgets).1 = .ok done) ↔
      ∃ results, b.yields files o.kind = .ok results)) ∧
    (b.last = some o → ∀ rounds b', b.Repeats rounds b' → ∃ done, b'.last = some done ∧
      done.kind = o.kind ∧ done.executions = o.executions + rounds.length ∧
      (∀ before results later, rounds = before ++ (true, results) :: later →
        (∀ round ∈ later, round.1 = false) → done.answer = results ++ later.flatMap Prod.snd) ∧
      ((∀ round ∈ rounds, round.1 = false) →
        done.answer = o.answer ++ rounds.flatMap Prod.snd)) := by
  intro b
  have sound : Sound b (Ledger.follow ⟨0, []⟩ .fresh changes) := sound_fresh.after changes
  refine ⟨fun none => ?_, fun index selected => ?_, fun last forgets => ?_,
    fun last rounds b' repeats => ?_⟩
  · have unselected : b.selectedStorage = .error noneSelected := by simp [selectedStorage, none]
    exact ⟨by simp only [execute, unselected], rfl⟩
  · have inside := sound.inside index selected
    have listed : b.running[index]? = some b.running[index] := List.getElem?_eq_getElem inside
    have there : b.running[index] < b.storages.length :=
      sound.placed.running _ (List.getElem_mem inside)
    have found : b.selectedStorage = .ok (index, b.running[index]) :=
      selectedStorage_eq_ok.mpr ⟨selected, listed⟩
    have storage : b.storage? b.running[index] = some b.storages[b.running[index]] :=
      List.getElem?_eq_getElem there
    have same : b.yields files o.kind =
        (b.storages[b.running[index]].run files b.objects o.kind).1.map Prod.fst := by
      simp only [yields, found, storage]
    refine ⟨_, _, listed, storage, same, fun f failed => ?_, fun results answered => ?_⟩
    · exact execute_failed (by simp [hasSelected, found, Except.toOption]) (same.trans failed)
    · exact execute_completed (same.trans answered)
  · have kind : (if forgets then o.forget else o).kind = o.kind := by cases forgets <;> rfl
    rw [executeAgain, last]
    simp only
    rw [execute_eq, kind]
    cases b.yields files o.kind <;> simp [Except.map]
  · obtain ⟨done, last', kind, executions, answered⟩ := repeats.last last
    exact ⟨done, last', kind, executions, answered.forgotten, answered.kept⟩

end Bench

end Runbook
