import Mathlib.Algebra.Ring.Nat
import Runbook.Bench.Request
/-! What requests change at a bench. Operations that are carried out raise counters by what they
come to, and leave the list of the storages alone; so do jobs that come to their end. -/
namespace Runbook.Bench

inductive Change where
  /-- The beginning of an invocation is counted. -/
  | invocation
  | request (files : FileTree) (request : Request)
  /-- An operation in the background comes to its end. -/
  | completion (files : FileTree) (index : Nat)

def apply (b : Bench) : Change → Bench
  | .invocation => b.count "actions.executed"
  | .request files request => (b.carryOut files request).2
  | .completion files index => b.finishJob files index

def after (b : Bench) (changes : List Change) : Bench := changes.foldl apply b

def counter (b : Bench) (name : String) : UInt64 := (b.statistics.get? name).getD 0

variable {b b' b'' : Bench} {files : FileTree} {f : Failure}

theorem counter_increment {name : String}
    (raised : b'.statistics = b.statistics.increment name 1) (other : String) :
    b'.counter other = b.counter other + if other = name then 1 else 0 := by
  by_cases same : other = name <;> simp [counter, raised, Statistics.increment, same]

theorem counter_count (b : Bench) (name other : String) :
    (b.count name).counter other = b.counter other + if other = name then 1 else 0 :=
  counter_increment rfl other

theorem counter_addDuration (b : Bench) (name other : String) (microseconds : Nat)
    (apart : other ≠ name ++ ".millis") :
    ({ b with statistics := b.statistics.addDuration name microseconds } : Bench).counter other =
      b.counter other := by
  simp [counter, Statistics.addDuration, Statistics.increment, apart]

abbrev Outcome := Option OperationKind

def Outcome.raises (name : String) : Outcome → Nat
  | none => if name = "operations.failed" then 1 else 0
  | some kind => (if name = "operations.executed" then 1 else 0) +
      if name = "operations." ++ kind.name then 1 else 0

/-- Operations have been carried out, with these outcomes. All that they change is in the storages
and in the counters; that of the time they take is left open. -/
structure Worked (b : Bench) (outcomes : List Outcome) (b' : Bench) : Prop where
  running : b'.running = b.running
  selected : b'.selected = b.selected
  storages : b'.storages.length = b.storages.length
  counters : ∀ name, name ≠ "operations.millis" → b'.counter name =
    b.counter name + UInt64.ofNat ((outcomes.map (Outcome.raises name)).sum)

/-- An operation in the background has a storage, and has not been without one. -/
def Job.Sound (storages : Nat) : Job → Prop
  | .running _ number => number < storages
  | .finished result => result ≠ .error noneSelected

variable {outcomes more : List Outcome}

theorem Worked.refl (b : Bench) : b.Worked [] b := ⟨rfl, rfl, rfl, by simp⟩

theorem Worked.trans (h : b.Worked outcomes b') (h' : b'.Worked more b'') :
    b.Worked (outcomes ++ more) b'' where
  running := h'.running.trans h.running
  selected := h'.selected.trans h.selected
  storages := h'.storages.trans h.storages
  counters name apart := by
    rw [h'.counters name apart, h.counters name apart, List.map_append, List.sum_append,
      UInt64.ofNat_add, UInt64.add_assoc]

section Failures

theorem kind_decode {type : RecordType} {line : String} (h : type.decode line = .error f) :
    f.kind = .illegalArgument := by
  unfold RecordType.decode at h
  split at h
  · cases h
  · cases h
    rfl

theorem next_ne_noneSelected {s s' : RecordStream} (h : s.next files = (.error f, s')) :
    f ≠ noneSelected := by
  rintro rfl
  unfold RecordStream.next at h
  split at h
  · have message := congrArg Failure.detail (Except.error.inj (Prod.mk.inj h).1)
    simpa [noneSelected] using congrArg String.toList message
  split at h
  · cases (Prod.mk.inj h).1
  simp only at h
  split at h
  · cases (Prod.mk.inj h).1
  · cases (Prod.mk.inj h).1
  split at h
  · cases (Prod.mk.inj h).1
  · have kind := kind_decode ‹_›
    rw [Except.error.inj (Prod.mk.inj h).1] at kind
    cases kind

theorem takeMore_ne_noneSelected {limit : Option Nat} {started : Bool} {bound : Nat}
    {s s' : RecordStream} (h : s.takeMore files limit started bound = (.error f, s')) :
    f ≠ noneSelected := by
  induction bound generalizing limit started s with
  | zero => simp [RecordStream.takeMore] at h
  | succ bound ih =>
    unfold RecordStream.takeMore at h
    split at h
    · simp at h
    split at h
    · split at h
      · simp at h
      · exact ih h
    · split at h
      · simp at h
      · obtain ⟨rfl, rfl⟩ : _ = f ∧ _ = s' := by simpa using h
        exact next_ne_noneSelected ‹_›

theorem sourceValues_ne_noneSelected {objects objects' : Objects} {source : Value}
    {count : Option Nat}
    (h : Storage.sourceValues files objects source count = (.error f, objects')) :
    f ≠ noneSelected := by
  unfold Storage.sourceValues at h
  split at h
  · rename_i id s _
    have failed : (s.take files count).1 = .error f := (Prod.mk.inj h).1
    exact takeMore_ne_noneSelected (Prod.ext failed rfl)
  · repeat' split at h
    all_goals simp at h

theorem answer_ne_noneSelected {s : Storage} {kind : OperationKind} {new : List String}
    (h : s.answer kind new = .error f) : f ≠ noneSelected := by
  rintro rfl
  unfold Storage.answer at h
  split at h
  · unfold Storage.insert at h
    split at h
    · split at h
      · cases h
      · have message := congrArg Failure.detail (Except.error.inj h)
        simpa [noneSelected] using congrArg String.toList message
    · cases h
  · cases h
  · split at h <;> cases h
  all_goals cases h

/-- Whatever a storage fails with, it is selected. -/
theorem run_ne_noneSelected {s : Storage} {objects objects' : Objects} {kind : OperationKind}
    (h : s.run files objects kind = (.error f, objects')) : f ≠ noneSelected := by
  unfold Storage.run at h
  split at h
  · rename_i source count
    cases read : Storage.sourceValues files objects source count with
    | mk result objects₁ =>
      simp only [Storage.sourceRecords, read, Prod.mk.injEq] at h
      cases result with
      | error g =>
        obtain rfl : g = f := by simpa [Except.map, Except.bind] using h.1
        exact sourceValues_ne_noneSelected read
      | ok values => exact answer_ne_noneSelected (by simpa [Except.map, Except.bind] using h.1)
  · exact answer_ne_noneSelected (Prod.mk.inj h).1

end Failures

variable {number : Nat} {o : Operation}

/-- An operation that is carried out on a storage that is there fails with a failure of its own, or
is completed. -/
theorem runOn_spec (files : FileTree) (o : Operation) (there : number < b.storages.length) :
    ∃ outcome, b.Worked [outcome] (b.runOn files number o).2 ∧
      (b.runOn files number o).2.jobs = b.jobs ∧
      (b.runOn files number o).1 ≠ .error noneSelected := by
  have found : b.storage? number = some b.storages[number] := List.getElem?_eq_getElem there
  cases ran : b.storages[number].run files b.objects o.kind with
  | mk result objects =>
    cases result with
    | error f =>
      have own := run_ne_noneSelected ran
      simp only [runOn, found, ran]
      refine ⟨none, ⟨rfl, rfl, rfl, fun name _ => ?_⟩, rfl, by simpa using own⟩
      rw [counter_count]
      simp [Outcome.raises, apply_ite UInt64.ofNat, counter]
    | ok answer =>
      simp only [runOn, found, ran, Operation.name]
      refine ⟨some o.kind, ⟨rfl, rfl, by simp [count], fun name apart => ?_⟩, rfl, by simp⟩
      rw [counter_addDuration _ _ _ _ apart, counter_count, counter_count]
      simp [Outcome.raises, apply_ite UInt64.ofNat, counter, UInt64.add_assoc]

/-- What is listed and what goes on in the background refers to storages that are there. -/
structure Placed (b : Bench) : Prop where
  running : ∀ number ∈ b.running, number < b.storages.length
  jobs : ∀ job ∈ b.jobs, Job.Sound b.storages.length job

theorem Placed.worked (h : Placed b) (worked : b.Worked outcomes b')
    (jobs : ∀ job ∈ b'.jobs, Job.Sound b.storages.length job) : Placed b' where
  running := by
    rw [worked.running, worked.storages]
    exact h.running
  jobs := by
    rw [worked.storages]
    exact jobs

def hasSelected (b : Bench) : Bool := b.selectedStorage.toOption.isSome

theorem selectedStorage_eq_ok {index : Nat} :
    b.selectedStorage = .ok (index, number) ↔
      b.selected = some index ∧ b.running[index]? = some number := by
  unfold selectedStorage
  cases selected : b.selected with
  | none => simp
  | some i =>
    cases listed : b.running[i]? with
    | none =>
      simp only [Option.bind_some, listed, Option.map_none, reduceCtorEq, Option.some.injEq,
        false_iff, not_and]
      rintro rfl
      simp [listed]
    | some n =>
      simp only [Option.bind_some, listed, Option.map_some, Except.ok.injEq, Prod.mk.injEq,
        Option.some.injEq]
      constructor
      · rintro ⟨rfl, rfl⟩
        exact ⟨rfl, listed⟩
      · rintro ⟨rfl, again⟩
        exact ⟨rfl, Option.some.inj (listed.symm.trans again)⟩

theorem selectedStorage_eq_error (none : b.hasSelected = false) :
    b.selectedStorage = .error noneSelected := by
  unfold hasSelected at none
  unfold selectedStorage at none ⊢
  split at none
  · cases none
  · rfl

/-- An operation that is executed is carried out where a storage is selected. -/
theorem execute_spec (placed : Placed b) (files : FileTree) (o : Operation) :
    ∃ outcomes, b.Worked outcomes (b.execute files o).2 ∧ (b.execute files o).2.jobs = b.jobs ∧
      outcomes.length = (if b.hasSelected then 1 else 0) ∧
      ((b.execute files o).1 = .error noneSelected ↔ b.hasSelected = false) := by
  cases has : b.hasSelected with
  | false =>
    have none := selectedStorage_eq_error has
    exact ⟨[], by simpa [execute, none] using Worked.refl b, by simp [execute, none],
      by simp, by simp [execute, none]⟩
  | true =>
    obtain ⟨⟨index, number⟩, found⟩ : ∃ place, b.selectedStorage = .ok place := by
      cases found : b.selectedStorage with
      | ok place => exact ⟨place, rfl⟩
      | error f => simp [hasSelected, found, Except.toOption] at has
    have there := placed.running number
      (List.mem_of_getElem? (selectedStorage_eq_ok.mp found).2)
    obtain ⟨outcome, worked, jobs, own⟩ := runOn_spec (b := { b with last := some o }) files o there
    refine ⟨[outcome], ?_⟩
    cases ran : { b with last := some o }.runOn files number o with
    | mk result b' =>
      rw [ran] at worked jobs own
      cases result with
      | ok done =>
        simp only [execute, found, ran]
        exact ⟨⟨worked.running, worked.selected, worked.storages, worked.counters⟩, jobs,
          by simp, by simp⟩
      | error f =>
        simp only [execute, found, ran]
        exact ⟨⟨worked.running, worked.selected, worked.storages, worked.counters⟩, jobs,
          by simp, by simpa using own⟩

def Job.isRunning : Job → Bool
  | .running .. => true
  | .finished _ => false

def runsJob (b : Bench) (index : Nat) : Bool := (b.jobs[index]?.map Job.isRunning).getD false

def pending (b : Bench) : Nat := b.jobs.countP Job.isRunning

/-- A job that comes to its end is carried out, unless it has come to its end already. -/
theorem finishJob_spec (placed : Placed b) (files : FileTree) (index : Nat) :
    ∃ outcomes, b.Worked outcomes (b.finishJob files index) ∧ Placed (b.finishJob files index) ∧
      outcomes.length = (if b.runsJob index then 1 else 0) ∧
      ∃ result, (b.finishJob files index).jobs =
        if b.runsJob index then b.jobs.set index (.finished result) else b.jobs := by
  cases found : b.jobs[index]? with
  | none =>
    have same : b.finishJob files index = b := by simp [finishJob, found]
    exact ⟨[], same.symm ▸ .refl b, same.symm ▸ placed, by simp [runsJob, found],
      .error noneSelected, by simp [same, runsJob, found]⟩
  | some job =>
    cases job with
    | finished result =>
      have same : b.finishJob files index = b := by simp [finishJob, found]
      exact ⟨[], same.symm ▸ .refl b, same.symm ▸ placed, by simp [runsJob, found, Job.isRunning],
        result, by simp [same, runsJob, found, Job.isRunning]⟩
    | running o number =>
      have there : number < b.storages.length := placed.jobs _ (List.mem_of_getElem? found)
      have runs : b.runsJob index = true := by simp [runsJob, found, Job.isRunning]
      obtain ⟨outcome, worked, jobs, own⟩ := runOn_spec files o there
      cases ran : b.runOn files number o with
      | mk result b' =>
        rw [ran] at worked jobs own
        obtain ⟨last, ended⟩ : ∃ last, b.finishJob files index =
            { b' with jobs := b'.jobs.set index (.finished result), last } := by
          cases result <;> exact ⟨_, by simp only [finishJob, found, ran]; rfl⟩
        have worked' : b.Worked [outcome] (b.finishJob files index) :=
          ended ▸ ⟨worked.running, worked.selected, worked.storages, worked.counters⟩
        have changed : (b.finishJob files index).jobs = b.jobs.set index (.finished result) := by
          rw [ended, ← jobs]
        refine ⟨[outcome], worked', placed.worked worked' fun job member => ?_, by simp [runs],
          result, by rw [changed, if_pos runs]⟩
        rw [changed] at member
        obtain member | rfl := List.mem_or_eq_of_mem_set member
        · exact placed.jobs job member
        · exact own

theorem runsJob_finishJob (placed : Placed b) (files : FileTree) (index other : Nat) :
    (b.finishJob files index).runsJob other = (decide (other ≠ index) && b.runsJob other) := by
  obtain ⟨_, _, _, _, result, jobs⟩ := finishJob_spec placed files index
  cases runs : b.runsJob index with
  | false =>
    rw [runs, if_neg (by decide)] at jobs
    by_cases same : other = index
    · simpa [runsJob, jobs, same] using runs
    · simp [runsJob, jobs, same]
  | true =>
    rw [runs, if_pos rfl] at jobs
    by_cases same : other = index
    · subst same
      by_cases inside : other < b.jobs.length <;> simp [runsJob, jobs, inside, Job.isRunning]
    · simp [runsJob, jobs, same, List.getElem?_set_ne (Ne.symm same)]

theorem pending_finishJob (placed : Placed b) (files : FileTree) (index : Nat) :
    (b.finishJob files index).pending + (if b.runsJob index then 1 else 0) = b.pending := by
  obtain ⟨_, _, _, _, result, jobs⟩ := finishJob_spec placed files index
  cases runs : b.runsJob index with
  | false => simp [pending, jobs, runs]
  | true =>
    rw [runs, if_pos rfl] at jobs
    have inside : index < b.jobs.length := by
      refine Nat.lt_of_not_le fun outside => ?_
      simp [runsJob, List.getElem?_eq_none outside] at runs
    have running : Job.isRunning b.jobs[index] = true := by
      simpa [runsJob, List.getElem?_eq_getElem inside] using runs
    have positive : 0 < b.jobs.countP Job.isRunning :=
      List.countP_pos_iff.mpr ⟨_, List.getElem_mem inside, running⟩
    rw [pending, pending, jobs, List.countP_set inside, running]
    simp [Job.isRunning]
    omega

/-- The first jobs come to their end one after the other. -/
theorem finishFirst_spec (placed : Placed b) (files : FileTree) (n : Nat) :
    let after := (List.range n).foldl (fun b index => b.finishJob files index) b
    ∃ outcomes, b.Worked outcomes after ∧ Placed after ∧
      outcomes.length + after.pending = b.pending ∧ after.jobs.length = b.jobs.length ∧
      ∀ i, after.runsJob i = (decide (n ≤ i) && b.runsJob i) := by
  induction n with
  | zero => exact ⟨[], .refl b, placed, by simp, rfl, by simp⟩
  | succ n ih =>
    rw [List.range_succ, List.foldl_append]
    generalize (List.range n).foldl (fun b index => b.finishJob files index) b = b' at ih
    obtain ⟨outcomes, worked, placed', counted, length, runs⟩ := ih
    obtain ⟨more, worked', placed'', one, result, jobs⟩ := finishJob_spec placed' files n
    refine ⟨outcomes ++ more, worked.trans worked', placed'', ?_, ?_, fun i => ?_⟩
    · have := pending_finishJob placed' files n
      simp only [List.length_append, one, List.foldl_cons, List.foldl_nil]
      omega
    · simp only [List.foldl_cons, List.foldl_nil, jobs]
      split <;> simp [length]
    · simp only [List.foldl_cons, List.foldl_nil, runsJob_finishJob placed' files, runs]
      by_cases here : i = n
      · have past : ¬ n + 1 ≤ n := by omega
        simp only [here, past, ne_eq, not_true_eq_false, decide_false, Bool.false_and]
      · have : n ≤ i ↔ n + 1 ≤ i := by omega
        simp [here, this]

/-- Jobs that come to their end one after the other have all been carried out. -/
theorem finishJobs_spec (placed : Placed b) (files : FileTree) :
    ∃ outcomes, b.Worked outcomes (b.finishJobs files) ∧ Placed (b.finishJobs files) ∧
      outcomes.length = b.pending ∧ (b.finishJobs files).pending = 0 ∧
      (b.finishJobs files).jobs.length = b.jobs.length := by
  obtain ⟨outcomes, worked, placed', counted, length, runs⟩ :=
    finishFirst_spec placed files b.jobs.length
  have none : (b.finishJobs files).pending = 0 := by
    refine List.countP_eq_zero.mpr fun job member => ?_
    obtain ⟨i, inside, rfl⟩ := List.getElem_of_mem member
    have ended : (b.finishJobs files).runsJob i = false := by
      have early : ¬ b.jobs.length ≤ i := Nat.not_le.mpr (Nat.lt_of_lt_of_eq inside length)
      rw [finishJobs, runs i, decide_eq_false early, Bool.false_and]
    simpa [runsJob, List.getElem?_eq_getElem inside] using ended
  have whole : outcomes.length = b.pending := by
    rw [← counted, ← finishJobs, none, Nat.add_zero]
  exact ⟨outcomes, worked, placed', whole, none, length⟩

section Aside

def Request.isAside : Request → Bool
  | .startStorage .. | .stopStorage _ | .selectStorage _ | .execute .. | .executeInBackground ..
  | .awaitBackground | .executeAgain _ | .resetCounters => false
  | _ => true

/-- The bench is the same but for its instances, its objects and its last operation. -/
def Beside (b b' : Bench) : Prop :=
  ∃ instances objects last, b' = { b with instances, objects, last }

theorem Beside.refl (b : Bench) : b.Beside b := ⟨b.instances, b.objects, b.last, rfl⟩

theorem Beside.worked (h : b.Beside b') : b.Worked [] b' := by
  obtain ⟨_, _, _, rfl⟩ := h
  exact ⟨rfl, rfl, rfl, by simp [counter]⟩

theorem Beside.jobs (h : b.Beside b') : b'.jobs = b.jobs := by
  obtain ⟨_, _, _, rfl⟩ := h
  rfl

theorem Beside.pending (h : b.Beside b') : b'.pending = b.pending := by
  rw [Bench.pending, Bench.pending, h.jobs]

theorem Beside.hasSelected (h : b.Beside b') : b'.hasSelected = b.hasSelected := by
  obtain ⟨_, _, _, rfl⟩ := h
  rfl

theorem Beside.placed (h : b.Beside b') (placed : Placed b) : Placed b' :=
  placed.worked h.worked (h.jobs ▸ placed.jobs)

theorem beside_settle {change : Except Failure Bench}
    (h : ∀ after, change = .ok after → b.Beside after) : b.Beside (b.settleSilent change).2 := by
  cases change with
  | error f => exact .refl b
  | ok after => exact h after rfl

theorem objects_instantiate {signature : String} {p : Value × Bench}
    (h : b.instantiate signature = .ok p) : ∃ objects, p.2 = { b with objects } := by
  unfold instantiate at h
  split at h
  · cases h
    exact ⟨_, rfl⟩
  · cases h

theorem beside_addInstance {signature name : String} (h : b.addInstance signature name = .ok b') :
    b.Beside b' := by
  obtain ⟨p, made, later⟩ := bind_eq_ok h
  obtain ⟨instances, _, rest⟩ := bind_eq_ok later
  obtain ⟨objects, same⟩ := objects_instantiate made
  cases rest
  exact same ▸ ⟨_, _, _, rfl⟩

theorem beside_replaceInstance {signature name : String}
    (h : b.replaceInstance signature name = .ok b') : b.Beside b' := by
  obtain ⟨p, made, rest⟩ := bind_eq_ok h
  obtain ⟨objects, same⟩ := objects_instantiate made
  cases rest
  exact same ▸ ⟨_, _, _, rfl⟩

theorem beside_removeInstance {name : String} (h : b.removeInstance name = .ok b') :
    b.Beside b' := by
  obtain ⟨_, _, rest⟩ := bind_eq_ok h
  cases rest
  exact ⟨_, _, _, rfl⟩

theorem beside_openStream {path type name : String}
    (h : b.openStream files path type name = .ok b') : b.Beside b' := by
  obtain ⟨_, _, h⟩ := bind_eq_ok h
  obtain ⟨_, _, h⟩ := bind_eq_ok h
  obtain ⟨_, _, rest⟩ := bind_eq_ok h
  cases rest
  exact ⟨_, _, _, rfl⟩

theorem beside_closeStream {name : String} (h : b.closeStream name = .ok b') : b.Beside b' := by
  obtain ⟨_, _, rest⟩ := bind_eq_ok h
  exact beside_removeInstance rest

theorem beside_resetStream {name : String} (h : b.resetStream name = .ok b') : b.Beside b' := by
  obtain ⟨_, _, rest⟩ := bind_eq_ok h
  cases rest
  exact ⟨_, _, _, rfl⟩

theorem beside_prepare {type : String} {args : List String} {p : Operation × Bench}
    (h : b.prepare type args = .ok p) : b.Beside p.2 := by
  unfold prepare at h
  cases made : Operation.create b.instances b.objects type args with
  | error f => simp [made, Except.map] at h
  | ok o =>
    obtain rfl : (o, _) = p := by simpa [made, Except.map] using h
    exact ⟨_, _, _, rfl⟩

/-- What a request does that is not about a storage. -/
theorem beside_carryOut (b : Bench) (files : FileTree) {request : Request}
    (aside : request.isAside = true) :
    b.Beside (b.carryOut files request).2 := by
  cases request with
  | startStorage | stopStorage | selectStorage | execute | executeInBackground | awaitBackground
  | executeAgain | resetCounters => cases aside
  | listStorages | describeStorage | describeOperation | answer | listInstances | showInstance
  | counters => exact .refl b
  | prepare type args =>
    cases made : b.prepare type args with
    | error f => simpa only [carryOut, withOperation, made] using Beside.refl b
    | ok p =>
      simpa only [carryOut, withOperation, made] using beside_prepare made
  | addInstance signature name => exact beside_settle fun _ => beside_addInstance
  | replaceInstance signature name => exact beside_settle fun _ => beside_replaceInstance
  | removeInstance name => exact beside_settle fun _ => beside_removeInstance
  | openStream path type name => exact beside_settle fun _ => beside_openStream
  | closeStream name => exact beside_settle fun _ => beside_closeStream
  | resetStream name => exact beside_settle fun _ => beside_resetStream

end Aside

def Request.isAdministrative : Request → Bool
  | .startStorage .. | .stopStorage _ | .selectStorage _ | .resetCounters => true
  | _ => false

def accepts (b : Bench) : Request → Nat
  | .execute type args | .executeInBackground type args =>
    if (b.prepare type args).toOption.isSome && b.hasSelected then 1 else 0
  | .executeAgain forgets? =>
    if (readOptional readFlag forgets?).toOption.isSome && b.last.isSome && b.hasSelected then 1
    else 0
  | _ => 0

/-- What becomes of a request that leads to a bench with outcomes: operations that it finds a
storage for are carried out or go on in the background. -/
def Serves (b : Bench) (accepted : Nat) (b' : Bench) : Prop :=
  ∃ outcomes, b.Worked outcomes b' ∧ Placed b' ∧ outcomes.length + b'.pending = b.pending + accepted

theorem Beside.serves (beside : b.Beside b') (placed : Placed b) : b.Serves 0 b' :=
  ⟨[], beside.worked, beside.placed placed, by simp [beside.pending]⟩

theorem Beside.trans_serves {n : Nat} (beside : b.Beside b') (h : b'.Serves n b'') :
    b.Serves n b'' := by
  obtain ⟨outcomes, worked, placed, count⟩ := h
  exact ⟨outcomes, beside.worked.trans worked, placed, by rw [count, beside.pending]⟩

theorem serves_execute (placed : Placed b) (files : FileTree) (o : Operation) :
    b.Serves (if b.hasSelected then 1 else 0) (b.execute files o).2 := by
  obtain ⟨outcomes, worked, jobs, count, _⟩ := execute_spec placed files o
  exact ⟨outcomes, worked, placed.worked worked (jobs ▸ placed.jobs), by
    rw [count, pending, pending, jobs, Nat.add_comm]⟩

theorem serves_startJob (placed : Placed b) (o : Operation) :
    b.Serves (if b.hasSelected then 1 else 0) (b.settleSilent (b.startJob o)).2 := by
  cases found : b.selectedStorage with
  | error f =>
    have same : (b.settleSilent (b.startJob o)).2 = b := by
      simp [startJob, found, settleSilent, settle, Except.map]
    have none : b.hasSelected = false := by simp [hasSelected, found, Except.toOption]
    simpa [same, none] using (Beside.refl b).serves placed
  | ok place =>
    have same : (b.settleSilent (b.startJob o)).2 =
        { b with jobs := b.jobs ++ [.running o place.2] } := by
      simp [startJob, found, settleSilent, settle, Except.map]
    have there : place.2 < b.storages.length := placed.running place.2
      (List.mem_of_getElem? (selectedStorage_eq_ok.mp found).2)
    have worked : b.Worked [] (b.settleSilent (b.startJob o)).2 :=
      same.symm ▸ ⟨rfl, rfl, rfl, by simp [counter]⟩
    refine ⟨[], worked, placed.worked worked fun job member => ?_, ?_⟩
    · simp only [same, List.mem_append, List.mem_singleton] at member
      obtain member | rfl := member
      · exact placed.jobs job member
      · exact there
    · simp [same, pending, Job.isRunning, hasSelected, found, Except.toOption]

/-- What is done with an operation is done where it can be created. -/
theorem serves_withOperation (placed : Placed b) {type : String} {args : List String}
    {use : Operation → Bench → Except Failure String × Bench}
    (used : ∀ o b', Placed b' → b'.Serves (if b'.hasSelected then 1 else 0) (use o b').2) :
    b.Serves (if (b.prepare type args).toOption.isSome && b.hasSelected then 1 else 0)
      (b.withOperation type args use).2 := by
  cases made : b.prepare type args with
  | error f =>
    simpa [withOperation, made, Except.toOption] using (Beside.refl b).serves placed
  | ok p =>
    have beside := beside_prepare made
    have served := beside.trans_serves (used p.1 p.2 (beside.placed placed))
    simpa [withOperation, made, Except.toOption, beside.hasSelected] using served

theorem serves_finishJob (placed : Placed b) (files : FileTree) (index : Nat) :
    b.Serves 0 (b.finishJob files index) := by
  obtain ⟨outcomes, worked, placed', count, _⟩ := finishJob_spec placed files index
  have pending := pending_finishJob placed files index
  exact ⟨outcomes, worked, placed', by omega⟩

theorem serves_waitJobs (placed : Placed b) (files : FileTree) :
    b.Serves 0 (b.waitJobs files).2 := by
  obtain ⟨outcomes, worked, _, count, _⟩ := finishJobs_spec placed files
  have worked' : b.Worked outcomes (b.waitJobs files).2 :=
    ⟨worked.running, worked.selected, worked.storages, worked.counters⟩
  exact ⟨outcomes, worked', placed.worked worked' (by simp [waitJobs]),
    by simpa [waitJobs, pending] using count⟩

/-- What a request does that does not start, stop or select a storage, or forget the counters. -/
theorem serves_carryOut (placed : Placed b) (files : FileTree) {request : Request}
    (plain : request.isAdministrative = false) :
    b.Serves (b.accepts request) (b.carryOut files request).2 := by
  by_cases aside : request.isAside = true
  · have none : b.accepts request = 0 := by
      cases request <;> first | rfl | cases aside
    exact none ▸ (beside_carryOut b files aside).serves placed
  cases request with
  | startStorage | stopStorage | selectStorage | resetCounters => cases plain
  | execute type args => exact serves_withOperation placed fun o _ h => serves_execute h files o
  | executeInBackground type args =>
    exact serves_withOperation placed fun o _ h => serves_startJob h o
  | awaitBackground => exact serves_waitJobs placed files
  | executeAgain forgets? =>
    cases read : readOptional readFlag forgets? with
    | error f =>
      simpa [carryOut, accepts, read, Except.toOption] using (Beside.refl b).serves placed
    | ok forgets =>
      cases last : b.last with
      | none =>
        simpa [carryOut, accepts, executeAgain, read, last] using (Beside.refl b).serves placed
      | some o =>
        simpa [carryOut, accepts, executeAgain, read, last, Except.toOption] using
          serves_execute placed files (if forgets.getD false then o.forget else o)
  | _ => exact absurd rfl aside

section Listing

def Request.isListing : Request → Bool
  | .startStorage .. | .stopStorage _ | .selectStorage _ => true
  | _ => false

theorem start_eq_ok {type : String} {args : List String} {p : Nat × Bench}
    (h : b.start type args = .ok p) :
    ∃ s, p.2 = { b with
      storages := b.storages ++ [s]
      running := b.running ++ [b.storages.length]
      selected := some b.running.length }.count "algorithms.started" := by
  unfold start at h
  cases made : Storage.create b.objects type (Operation.resolveArguments b.instances args) with
  | error f => simp [made, Except.map] at h
  | ok s =>
    obtain rfl : _ = p := by simpa [made, Except.map] using h
    exact ⟨s, rfl⟩

theorem stop_eq_ok {index? : Option Nat} {p : String × Bench} (h : b.stop index? = .ok p) :
    ∃ index number s, index?.or b.selected = some index ∧ b.running[index]? = some number ∧
      p.2 = { b with
        storages := b.storages.set number s
        running := b.running.eraseIdx index
        selected := if (b.running.eraseIdx index).isEmpty then none
          else some ((b.running.eraseIdx index).length - 1) }.count "algorithms.stopped" := by
  unfold stop at h
  split at h
  · cases h
  rename_i index named
  split at h
  · cases h
  rename_i number s found
  obtain ⟨n, listed, there⟩ := Option.bind_eq_some_iff.mp found
  obtain ⟨t, -, same⟩ := Option.map_eq_some_iff.mp there
  cases same
  cases h
  exact ⟨index, number, s.finalized, named, listed, rfl⟩

theorem select_eq_ok (h : b.select index = .ok b') : b' = { b with selected := some index } := by
  unfold select at h
  split at h
  · exact (Except.ok.inj h).symm
  · cases h

theorem settle_refused {change : Except Failure (String × Bench)} {f : Failure}
    (refused : (b.settle change).1 = .error f) : (b.settle change).2 = b := by
  cases change with
  | error g => rfl
  | ok p => cases refused

/-- What is refused about the list of the storages changes nothing. -/
theorem carryOut_refused {request : Request} {f : Failure} (listing : request.isListing = true)
    (refused : (b.carryOut files request).1 = .error f) : (b.carryOut files request).2 = b := by
  cases request with
  | startStorage | stopStorage | selectStorage => exact settle_refused refused
  | _ => cases listing

end Listing

inductive Effect (b : Bench) : Change → Bench → Prop where
  | invoked : Effect b .invocation (b.count "actions.executed")
  | completed {files : FileTree} {index : Nat} {after : Bench} (served : b.Serves 0 after) :
      Effect b (.completion files index) after
  | plain {files : FileTree} {request : Request} {after : Bench}
      (plain : request.isAdministrative = false) (served : b.Serves (b.accepts request) after) :
      Effect b (.request files request) after
  | refused {files : FileTree} {request : Request} {f : Failure}
      (listing : request.isListing = true) (answer : (b.carryOut files request).1 = .error f) :
      Effect b (.request files request) b
  | started {files : FileTree} {type text : String} {args : List String} {p : Nat × Bench}
      (done : b.start type args = .ok p)
      (answer : (b.carryOut files (.startStorage type args)).1 = .ok text) :
      Effect b (.request files (.startStorage type args)) p.2
  | stopped {files : FileTree} {text : String} {index? : Option String} {i? : Option Nat}
      {p : String × Bench} (read : readOptional readIndex index? = .ok i?)
      (done : b.stop i? = .ok p)
      (answer : (b.carryOut files (.stopStorage index?)).1 = .ok text) :
      Effect b (.request files (.stopStorage index?)) p.2
  | selected {files : FileTree} {index : String} {i : Nat} {after : Bench}
      (done : b.select i = .ok after) : Effect b (.request files (.selectStorage index)) after
  | reset {files : FileTree} :
      Effect b (.request files .resetCounters) { b with statistics := .empty }

theorem effect_listing {request : Request} (listing : request.isListing = true) :
    Effect b (.request files request) (b.carryOut files request).2 := by
  cases answer : (b.carryOut files request).1 with
  | error f =>
    rw [carryOut_refused listing answer]
    exact .refused listing answer
  | ok text =>
    cases request with
    | startStorage type args =>
      cases done : b.start type args with
      | error f => simp [carryOut, startStorage, done, settle, Except.map] at answer
      | ok p =>
        have after : (b.carryOut files (.startStorage type args)).2 = p.2 := by
          simp [carryOut, startStorage, done, settle, Except.map]
        exact after ▸ .started done answer
    | stopStorage index? =>
      cases read : readOptional readIndex index? with
      | error f => simp [carryOut, stopStorage, read, bind, Except.bind, settle] at answer
      | ok i? =>
        cases done : b.stop i? with
        | error f => simp [carryOut, stopStorage, read, done, bind, Except.bind, settle] at answer
        | ok p =>
          have after : (b.carryOut files (.stopStorage index?)).2 = p.2 := by
            simp [carryOut, stopStorage, read, done, bind, Except.bind, pure, Except.pure, settle]
          exact after ▸ .stopped read done answer
    | selectStorage index =>
      cases read : readIndex index with
      | error f => simp [carryOut, selectStorage, read, bind, Except.bind, settle] at answer
      | ok i =>
        cases done : b.select i with
        | error f =>
          simp [carryOut, selectStorage, read, done, bind, Except.bind, settle] at answer
        | ok after =>
          have same : (b.carryOut files (.selectStorage index)).2 = after := by
            simp [carryOut, selectStorage, read, done, bind, Except.bind, pure, Except.pure, settle]
          exact same ▸ .selected done
    | _ => cases listing

/-- Every change has one of these effects. -/
theorem Placed.effect (placed : Placed b) (c : Change) : Effect b c (b.apply c) := by
  cases c with
  | invocation => exact .invoked
  | completion files index => exact .completed (serves_finishJob placed files index)
  | request files request =>
    by_cases plain : request.isAdministrative = false
    · exact .plain plain (serves_carryOut placed files plain)
    · by_cases listing : request.isListing = true
      · exact effect_listing listing
      · cases request with
        | resetCounters => exact .reset
        | startStorage | stopStorage | selectStorage => exact absurd rfl listing
        | _ => exact absurd rfl plain

end Runbook.Bench
