import Runbook.Bench.Request
/-! What the bench does does not depend on its counters. Two benches that differ in the counter of
the executed actions alone answer alike, and differ in it alone afterwards. Only a look at the
counters themselves tells them apart. -/
namespace Runbook

def Statistics.Agree (s s₀ : Statistics) : Prop :=
  ∀ name, name ≠ "actions.executed" → s₀.get? name = s.get? name

namespace Statistics.Agree

variable {s s₀ s₁ : Statistics}

theorem refl (s : Statistics) : Agree s s := fun _ _ => rfl

theorem symm (h : Agree s s₀) : Agree s₀ s := fun name other => (h name other).symm

theorem trans (h : Agree s s₀) (h' : Agree s₀ s₁) : Agree s s₁ := fun name other =>
  (h' name other).trans (h name other)

/-- A counter that is raised on both sides is the same, or that of the executed actions. -/
theorem increment (h : Agree s s₀) (name : String) (amount : UInt64) :
    Agree (s.increment name amount) (s₀.increment name amount) := by
  intro name' other
  by_cases same : name' = name
  · subst same
    simp only [Statistics.increment, Table.get?_set_same, h name' other]
  · simp only [Statistics.increment, Table.get?_set_other _ _ same, h name' other]

theorem addDuration (h : Agree s s₀) (name : String) (microseconds : Nat) :
    Agree (s.addDuration name microseconds) (s₀.addDuration name microseconds) :=
  h.increment _ _

/-- The counter of the executed actions does not count. -/
theorem executed (s : Statistics) (amount : UInt64) :
    Agree s (s.increment "actions.executed" amount) := fun _ other => by
  simp only [Statistics.increment, Table.get?_set_other _ _ other]

end Statistics.Agree

/-- Two outcomes of which neither is a failure without the other one. -/
inductive Outcomes {α β : Type} (R : α → β → Prop) : Except Failure α → Except Failure β → Prop
  | error (f : Failure) : Outcomes R (.error f) (.error f)
  | ok {a : α} {b : β} (related : R a b) : Outcomes R (.ok a) (.ok b)

namespace Outcomes

variable {α β γ δ : Type} {R : α → β → Prop} {Q : γ → δ → Prop} {x : Except Failure α}
  {y : Except Failure β}

theorem same (x : Except Failure α) : Outcomes Eq x x := by
  cases x with
  | error f => exact .error f
  | ok a => exact .ok rfl

theorem bind (h : Outcomes R x y) {f : α → Except Failure γ} {g : β → Except Failure δ}
    (later : ∀ a b, R a b → Outcomes Q (f a) (g b)) : Outcomes Q (x >>= f) (y >>= g) := by
  cases h with
  | error f => exact .error f
  | ok related => exact later _ _ related

theorem map (h : Outcomes R x y) {f : α → γ} {g : β → δ}
    (related : ∀ a b, R a b → Q (f a) (g b)) : Outcomes Q (x.map f) (y.map g) := by
  cases h with
  | error f => exact .error f
  | ok r => exact .ok (related _ _ r)

end Outcomes

namespace Bench

/-- Benches that differ in the counter of the executed actions alone. -/
def Near (b b₀ : Bench) : Prop :=
  ∃ statistics, b.statistics.Agree statistics ∧ b₀ = { b with statistics }

def Alike {α : Type} (r r₀ : α × Bench) : Prop := r₀.1 = r.1 ∧ r.2.Near r₀.2

theorem Alike.elim {α : Type} {r r₀ : α × Bench} (h : Alike r r₀) :
    ∃ a b b₀, r = (a, b) ∧ r₀ = (a, b₀) ∧ b.Near b₀ :=
  ⟨r.1, r.2, r₀.2, rfl, Prod.ext h.1 rfl, h.2⟩

variable {b b₀ b₁ : Bench}

theorem Near.refl (b : Bench) : Near b b := ⟨b.statistics, .refl _, rfl⟩

theorem Near.symm (h : Near b b₀) : Near b₀ b := by
  obtain ⟨statistics, agree, rfl⟩ := h
  exact ⟨b.statistics, agree.symm, rfl⟩

theorem Near.trans (h : Near b b₀) (h' : Near b₀ b₁) : Near b b₁ := by
  obtain ⟨statistics, agree, rfl⟩ := h
  obtain ⟨statistics', agree', rfl⟩ := h'
  exact ⟨statistics', agree.trans agree', rfl⟩

theorem near_executed (b : Bench) : Near b (b.count "actions.executed") :=
  ⟨_, .executed _ 1, rfl⟩

theorem Near.instantiate (h : Near b b₀) (signature : String) :
    Outcomes Alike (b.instantiate signature) (b₀.instantiate signature) := by
  obtain ⟨statistics, agree, rfl⟩ := h
  simp only [Bench.instantiate]
  split
  · exact .ok ⟨rfl, _, agree, rfl⟩
  · exact .error _

theorem Near.start (h : Near b b₀) (type : String) (args : List String) :
    Outcomes Alike (b.start type args) (b₀.start type args) := by
  obtain ⟨statistics, agree, rfl⟩ := h
  exact (Outcomes.same _).map fun _ _ same => same ▸ ⟨rfl, _, agree.increment _ 1, rfl⟩

theorem Near.stop (h : Near b b₀) (index? : Option Nat) :
    Outcomes Alike (b.stop index?) (b₀.stop index?) := by
  obtain ⟨statistics, agree, rfl⟩ := h
  simp only [Bench.stop, Bench.storage?]
  split
  · exact .error _
  split
  · exact .error _
  · exact .ok ⟨rfl, _, agree.increment _ 1, rfl⟩

theorem Near.select (h : Near b b₀) (index : Nat) :
    Outcomes Near (b.select index) (b₀.select index) := by
  obtain ⟨statistics, agree, rfl⟩ := h
  simp only [Bench.select]
  split
  · exact .ok ⟨_, agree, rfl⟩
  · exact .error _

theorem Near.prepare (h : Near b b₀) (type : String) (args : List String) :
    Outcomes Alike (b.prepare type args) (b₀.prepare type args) := by
  obtain ⟨statistics, agree, rfl⟩ := h
  exact (Outcomes.same _).map fun _ _ same => same ▸ ⟨rfl, _, agree, rfl⟩

theorem Near.runOn (h : Near b b₀) (files : FileTree) (number : Nat) (o : Operation) :
    Alike (b.runOn files number o) (b₀.runOn files number o) := by
  obtain ⟨statistics, agree, rfl⟩ := h
  simp only [Bench.runOn, Bench.storage?]
  split
  · exact ⟨rfl, _, agree, rfl⟩
  split
  · exact ⟨rfl, _, agree.increment _ 1, rfl⟩
  · exact ⟨rfl, _, ((agree.increment _ _).increment _ _).addDuration _ _, rfl⟩

theorem Near.selectedStorage (h : Near b b₀) : b₀.selectedStorage = b.selectedStorage := by
  obtain ⟨_, _, rfl⟩ := h
  rfl

/-- With another last operation. -/
theorem Near.withLast (h : Near b b₀) (last : Option Operation) :
    Near { b with last } { b₀ with last } := by
  obtain ⟨statistics, agree, rfl⟩ := h
  exact ⟨_, agree, rfl⟩

theorem Near.execute (h : Near b b₀) (files : FileTree) (o : Operation) :
    Alike (b.execute files o) (b₀.execute files o) := by
  simp only [Bench.execute, h.selectedStorage]
  split
  · exact ⟨rfl, h⟩
  · rename_i number _
    obtain ⟨result, c, c₀, ran, ran₀, near⟩ := ((h.withLast (some o)).runOn files number o).elim
    simp only [ran, ran₀]
    cases result with
    | error f => exact ⟨rfl, near⟩
    | ok done => exact ⟨rfl, near.withLast _⟩

theorem Near.executeAgain (h : Near b b₀) (files : FileTree) (forgets : Bool) :
    Alike (b.executeAgain files forgets) (b₀.executeAgain files forgets) := by
  have last : b₀.last = b.last := by
    obtain ⟨_, _, rfl⟩ := h
    rfl
  simp only [Bench.executeAgain, last]
  split
  · exact ⟨rfl, h⟩
  · exact h.execute files _

theorem Near.startJob (h : Near b b₀) (o : Operation) :
    Outcomes Near (b.startJob o) (b₀.startJob o) := by
  simp only [Bench.startJob, h.selectedStorage]
  obtain ⟨statistics, agree, rfl⟩ := h
  exact (Outcomes.same _).map fun _ _ same => same ▸ ⟨_, agree, rfl⟩

theorem Near.jobs (h : Near b b₀) : b₀.jobs = b.jobs := by
  obtain ⟨_, _, rfl⟩ := h
  rfl

theorem Near.finishJob (h : Near b b₀) (files : FileTree) (index : Nat) :
    Near (b.finishJob files index) (b₀.finishJob files index) := by
  simp only [Bench.finishJob, h.jobs]
  split
  · rename_i o number _
    obtain ⟨result, c, c₀, ran, ran₀, near⟩ := (h.runOn files number o).elim
    simp only [ran, ran₀]
    obtain ⟨statistics, agree, rfl⟩ := near
    cases result <;> exact ⟨_, agree, rfl⟩
  · exact h

theorem Near.finishJobs (h : Near b b₀) (files : FileTree) :
    Near (b.finishJobs files) (b₀.finishJobs files) := by
  simp only [Bench.finishJobs, h.jobs]
  generalize List.range b.jobs.length = indices
  induction indices generalizing b b₀ with
  | nil => exact h
  | cons index rest ih => exact ih (h.finishJob files index)

theorem Near.waitJobs (h : Near b b₀) (files : FileTree) :
    Alike (b.waitJobs files) (b₀.waitJobs files) := by
  have near := h.finishJobs files
  simp only [Bench.waitJobs, near.jobs]
  obtain ⟨statistics, agree, same⟩ := near
  exact ⟨rfl, _, agree, by rw [same]⟩

/-- A change that is made as a whole or not at all. -/
theorem Near.settle (h : Near b b₀) {change change₀ : Except Failure (String × Bench)}
    (changes : Outcomes Alike change change₀) : Alike (b.settle change) (b₀.settle change₀) := by
  cases changes with
  | error f => exact ⟨rfl, h⟩
  | @ok r r₀ alike =>
    obtain ⟨_, c, c₀, rfl, rfl, near⟩ := alike.elim
    exact ⟨rfl, near⟩

theorem Near.settleSilent (h : Near b b₀) {change change₀ : Except Failure Bench}
    (changes : Outcomes Near change change₀) :
    Alike (b.settleSilent change) (b₀.settleSilent change₀) :=
  h.settle (changes.map fun _ _ near => ⟨rfl, near⟩)

theorem Near.withOperation (h : Near b b₀) (type : String) (args : List String)
    {next : Operation → Bench → Except Failure String × Bench}
    (later : ∀ o b b₀, Near b b₀ → Alike (next o b) (next o b₀)) :
    Alike (b.withOperation type args next) (b₀.withOperation type args next) := by
  have prepared := h.prepare type args
  simp only [Bench.withOperation]
  generalize b.prepare type args = r at prepared
  generalize b₀.prepare type args = r₀ at prepared
  cases prepared with
  | error f => exact ⟨rfl, h⟩
  | @ok r r₀ alike =>
    obtain ⟨o, c, c₀, rfl, rfl, near⟩ := alike.elim
    exact later o c c₀ near

theorem Near.addInstance (h : Near b b₀) (signature name : String) :
    Outcomes Near (b.addInstance signature name) (b₀.addInstance signature name) := by
  refine (h.instantiate signature).bind fun r r₀ alike => ?_
  obtain ⟨v, c, c₀, rfl, rfl, statistics, agree, rfl⟩ := alike.elim
  exact (Outcomes.same _).bind fun _ _ same => same ▸ .ok ⟨_, agree, rfl⟩

theorem Near.replaceInstance (h : Near b b₀) (signature name : String) :
    Outcomes Near (b.replaceInstance signature name) (b₀.replaceInstance signature name) := by
  refine (h.instantiate signature).bind fun r r₀ alike => ?_
  obtain ⟨v, c, c₀, rfl, rfl, statistics, agree, rfl⟩ := alike.elim
  exact .ok ⟨_, agree, rfl⟩

theorem Near.removeInstance (h : Near b b₀) (name : String) :
    Outcomes Near (b.removeInstance name) (b₀.removeInstance name) := by
  obtain ⟨statistics, agree, rfl⟩ := h
  exact (Outcomes.same _).bind fun _ _ same => same ▸ .ok ⟨_, agree, rfl⟩

theorem Near.openStream (h : Near b b₀) (files : FileTree) (path type name : String) :
    Outcomes Near (b.openStream files path type name) (b₀.openStream files path type name) := by
  obtain ⟨statistics, agree, rfl⟩ := h
  refine (Outcomes.same _).bind fun _ _ same => same ▸ ?_
  refine (Outcomes.same _).bind fun _ _ same => same ▸ ?_
  exact (Outcomes.same _).bind fun _ _ same => same ▸ .ok ⟨_, agree, rfl⟩

theorem Near.requireStream (h : Near b b₀) (name : String) :
    b₀.requireStream name = b.requireStream name := by
  obtain ⟨_, _, rfl⟩ := h
  rfl

theorem Near.closeStream (h : Near b b₀) (name : String) :
    Outcomes Near (b.closeStream name) (b₀.closeStream name) := by
  simp only [Bench.closeStream, h.requireStream]
  exact (Outcomes.same _).bind fun _ _ _ => h.removeInstance name

theorem Near.resetStream (h : Near b b₀) (name : String) :
    Outcomes Near (b.resetStream name) (b₀.resetStream name) := by
  simp only [Bench.resetStream, h.requireStream]
  obtain ⟨statistics, agree, rfl⟩ := h
  exact (Outcomes.same _).bind fun _ _ same => same ▸ .ok ⟨_, agree, rfl⟩

/-- Every request but that for the counters is answered alike. -/
theorem Near.carryOut (h : Near b b₀) (files : FileTree) {request : Request}
    (other : ∀ args, request ≠ .counters args) :
    Alike (b.carryOut files request) (b₀.carryOut files request) := by
  cases request with
  | startStorage type args =>
    refine h.settle ((h.start type args).map fun r r₀ alike => ?_)
    obtain ⟨_, c, c₀, rfl, rfl, near⟩ := alike.elim
    exact ⟨rfl, near⟩
  | stopStorage index? =>
    refine h.settle ((Outcomes.same _).bind fun index _ same => same ▸ (h.stop index).bind fun r r₀ alike => ?_)
    obtain ⟨_, c, c₀, rfl, rfl, near⟩ := alike.elim
    exact .ok ⟨rfl, near⟩
  | selectStorage index =>
    exact h.settle ((Outcomes.same _).bind fun n _ same => same ▸ (h.select n).bind fun _ _ near =>
      .ok ⟨rfl, near⟩)
  | listStorages | describeStorage | describeOperation | answer | listInstances | showInstance =>
    obtain ⟨statistics, agree, rfl⟩ := h
    exact ⟨rfl, _, agree, rfl⟩
  | prepare type args => exact h.withOperation type args fun _ _ _ near => ⟨rfl, near⟩
  | execute type args =>
    refine h.withOperation type args fun o b b₀ near => ?_
    obtain ⟨result, c, c₀, ran, ran₀, near⟩ := (near.execute files o).elim
    simp only [ran, ran₀]
    exact ⟨rfl, near⟩
  | executeInBackground type args =>
    exact h.withOperation type args fun o b b₀ near => near.settleSilent (near.startJob o)
  | awaitBackground =>
    obtain ⟨result, c, c₀, ran, ran₀, near⟩ := (h.waitJobs files).elim
    simp only [Bench.carryOut, ran, ran₀]
    exact ⟨rfl, near⟩
  | executeAgain forgets? =>
    simp only [Bench.carryOut]
    split
    · exact ⟨rfl, h⟩
    · rename_i forgets _
      obtain ⟨result, c, c₀, ran, ran₀, near⟩ := (h.executeAgain files (forgets.getD false)).elim
      simp only [ran, ran₀]
      exact ⟨rfl, near⟩
  | addInstance signature name => exact h.settleSilent (h.addInstance signature name)
  | replaceInstance signature name => exact h.settleSilent (h.replaceInstance signature name)
  | removeInstance name => exact h.settleSilent (h.removeInstance name)
  | openStream path type name => exact h.settleSilent (h.openStream files path type name)
  | closeStream name => exact h.settleSilent (h.closeStream name)
  | resetStream name => exact h.settleSilent (h.resetStream name)
  | counters args => exact absurd rfl (other args)
  | resetCounters =>
    obtain ⟨statistics, agree, rfl⟩ := h
    exact ⟨rfl, _, .refl _, rfl⟩

end Bench

end Runbook
