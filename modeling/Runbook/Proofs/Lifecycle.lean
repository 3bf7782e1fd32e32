import Mathlib.Data.List.Nodup
import Runbook.Proofs.Working
/-! The life of storages at a bench: from their start to their stop they are listed in the order of
their start, and as long as there is one of them, one is selected. -/
namespace Runbook.Bench

structure Ledger where
  /-- How many storages have been started. They are numbered in the order of their start. -/
  started : Nat
  /-- The numbers of those that have been stopped. -/
  stopped : List Nat

variable {b b' : Bench} {l : Ledger} {files : FileTree} {index number : Nat}

/-- The number of the storage that is listed at an index, that of the selected one where no index
is given. -/
def meant? (b : Bench) (index? : Option String) : Option Nat := do
  let index? ← (readOptional readIndex index?).toOption
  let index ← index?.or b.selected
  b.running[index]?

def Ledger.enter (l : Ledger) (b : Bench) : Change → Ledger
  | .request files (.startStorage type args) =>
    match (b.carryOut files (.startStorage type args)).1 with
    | .ok _ => { l with started := l.started + 1 }
    | .error _ => l
  | .request files (.stopStorage index?) =>
    match (b.carryOut files (.stopStorage index?)).1, b.meant? index? with
    | .ok _, some number => { l with stopped := l.stopped ++ [number] }
    | _, _ => l
  | _ => l

def Ledger.follow (l : Ledger) (b : Bench) : List Change → Ledger
  | [] => l
  | c :: rest => (l.enter b c).follow (b.apply c) rest

theorem Ledger.enter_plain {request : Request} (plain : request.isAdministrative = false) :
    l.enter b (.request files request) = l := by
  cases request with
  | startStorage | stopStorage => cases plain
  | _ => rfl

theorem Ledger.enter_refused {request : Request} {f : Failure}
    (refused : (b.carryOut files request).1 = .error f) :
    l.enter b (.request files request) = l := by
  cases request with
  | startStorage | stopStorage => simp only [Ledger.enter, refused]
  | _ => rfl

theorem Ledger.enter_started {type text : String} {args : List String}
    (answer : (b.carryOut files (.startStorage type args)).1 = .ok text) :
    l.enter b (.request files (.startStorage type args)) = { l with started := l.started + 1 } := by
  simp only [Ledger.enter, answer]

theorem Ledger.enter_stopped {text : String} {index? : Option String} {i? : Option Nat}
    (read : readOptional readIndex index? = .ok i?) (named : i?.or b.selected = some index)
    (listed : b.running[index]? = some number)
    (answer : (b.carryOut files (.stopStorage index?)).1 = .ok text) :
    l.enter b (.request files (.stopStorage index?)) =
      { l with stopped := l.stopped ++ [number] } := by
  have meant : b.meant? index? = some number := by
    simp [meant?, read, Except.toOption, named, listed]
  simp only [Ledger.enter, answer, meant]

/-- The storages that run are those that were started and not stopped. -/
structure Sound (b : Bench) (l : Ledger) : Prop where
  storages : b.storages.length = l.started
  running : b.running = (List.range l.started).filter (· ∉ l.stopped)
  distinct : l.stopped.Nodup
  known : ∀ number ∈ l.stopped, number < l.started
  balance : l.started = l.stopped.length + b.running.length
  idle : b.selected = none → b.running = []
  inside : ∀ index, b.selected = some index → index < b.running.length
  jobs : ∀ job ∈ b.jobs, Job.Sound b.storages.length job

/-- The counters tell how often storages have been started and stopped. -/
structure Counted (b : Bench) (l : Ledger) : Prop where
  started : b.counter "algorithms.started" = UInt64.ofNat l.started
  stopped : b.counter "algorithms.stopped" = UInt64.ofNat l.stopped.length

theorem sound_fresh : Sound .fresh ⟨0, []⟩ := by
  refine ⟨rfl, rfl, .nil, ?_, rfl, fun _ => rfl, ?_, ?_⟩ <;> simp [fresh]

namespace Sound

theorem mem_running (h : Sound b l) :
    number ∈ b.running ↔ number < l.started ∧ number ∉ l.stopped := by
  simp [h.running]

theorem nodup (h : Sound b l) : b.running.Nodup := h.running ▸ List.nodup_range.filter _

theorem placed (h : Sound b l) : Placed b where
  running _ member := h.storages ▸ (h.mem_running.mp member).1
  jobs := h.jobs

theorem hasSelected (h : Sound b l) : b.hasSelected = false ↔ b.running = [] := by
  cases selected : b.selected with
  | none => simp [Bench.hasSelected, selectedStorage, selected, h.idle selected, Except.toOption]
  | some index =>
    have inside := h.inside index selected
    have listed : b.running ≠ [] := List.ne_nil_of_length_pos (Nat.zero_lt_of_lt inside)
    simp [Bench.hasSelected, selectedStorage, selected, inside, listed, Except.toOption]

/-- Operations do not touch the list of the storages. -/
theorem serves (h : Sound b l) {n : Nat} (served : b.Serves n b') : Sound b' l := by
  obtain ⟨_, worked, placed, _⟩ := served
  exact {
    storages := worked.storages.trans h.storages
    running := worked.running.trans h.running
    distinct := h.distinct
    known := h.known
    balance := worked.running ▸ h.balance
    idle := by rw [worked.selected, worked.running]; exact h.idle
    inside := by rw [worked.selected, worked.running]; exact h.inside
    jobs := placed.jobs }

/-- What stays where a storage is taken out of the list. -/
theorem eraseIdx (h : Sound b l) (listed : b.running[index]? = some number) :
    b.running.eraseIdx index = (List.range l.started).filter (· ∉ l.stopped ++ [number]) := by
  obtain ⟨inside, found⟩ := List.getElem?_eq_some_iff.mp listed
  rw [← h.nodup.erase_getElem index inside, found, h.nodup.erase_eq_filter, h.running,
    List.filter_filter]
  refine List.filter_congr fun n _ => ?_
  by_cases same : n = number <;> simp [same]

/-- Jobs keep their storages while there are more and more of these. -/
theorem jobs_mono (h : Sound b l) {more : Nat} (le : b.storages.length ≤ more) :
    ∀ job ∈ b.jobs, Job.Sound more job := by
  intro job member
  have old := h.jobs job member
  cases job with
  | running o number => exact Nat.lt_of_lt_of_le old le
  | finished result => exact old

theorem start (h : Sound b l) {type : String} {args : List String} {p : Nat × Bench}
    (started : b.start type args = .ok p) : Sound p.2 { l with started := l.started + 1 } := by
  obtain ⟨s, after⟩ := start_eq_ok started
  have new : l.started ∉ l.stopped := fun member => absurd (h.known _ member) (Nat.lt_irrefl _)
  have balance := h.balance
  rw [after]
  exact {
    storages := by simp [count, h.storages]
    running := by
      simp [count, h.running, h.storages, List.range_succ, List.filter_append, new]
    distinct := h.distinct
    known := fun n member => Nat.lt_succ_of_lt (h.known n member)
    balance := by simp [count]; omega
    idle := by simp [count]
    inside := by simp [count]
    jobs := h.jobs_mono (by simp [count]) }

theorem stop (h : Sound b l) {index? : Option Nat} {p : String × Bench}
    (stopped : b.stop index? = .ok p) :
    ∃ index number, index?.or b.selected = some index ∧ b.running[index]? = some number ∧
      Sound p.2 { l with stopped := l.stopped ++ [number] } := by
  obtain ⟨index, number, s, named, listed, after⟩ := stop_eq_ok stopped
  have ⟨there, running⟩ := h.mem_running.mp (List.mem_of_getElem? listed)
  have length := List.length_eraseIdx_of_lt (List.getElem?_eq_some_iff.mp listed).1
  have inside := (List.getElem?_eq_some_iff.mp listed).1
  have balance := h.balance
  rw [after]
  refine ⟨index, number, named, listed, ?_⟩
  exact {
    storages := by simp [count, h.storages]
    running := h.eraseIdx listed
    distinct := List.nodup_append.mpr ⟨h.distinct, by simp, by
      rintro n old m member rfl
      exact running (List.mem_singleton.mp member ▸ old)⟩
    known := fun n member => by
      obtain old | new := List.mem_append.mp member
      · exact h.known n old
      · exact List.mem_singleton.mp new ▸ there
    balance := by simp [count, length]; omega
    idle := by
      intro selected
      simp only [count] at selected ⊢
      split at selected
      · exact List.isEmpty_iff.mp ‹_›
      · cases selected
    inside := by
      intro i selected
      simp only [count] at selected ⊢
      split at selected
      · cases selected
      · rename_i some
        cases selected
        have : b.running.eraseIdx index ≠ [] := by simpa using some
        have := List.length_pos_of_ne_nil this
        omega
    jobs := h.jobs_mono (by simp [count]) }

theorem select (h : Sound b l) {index : Nat} (selected : b.select index = .ok b') :
    Sound b' l := by
  unfold Bench.select at selected
  split at selected
  · cases selected
    exact { h with idle := by simp, inside := by simpa }
  · cases selected

end Sound

/-- Every change keeps the list of the storages in accord with the ledger. -/
theorem Sound.effect (h : Sound b l) {c : Change} (effect : b.Effect c b') :
    Sound b' (l.enter b c) := by
  cases effect with
  | invoked => exact { h with }
  | completed served => exact h.serves served
  | plain plain served =>
    rw [Ledger.enter_plain plain]
    exact h.serves served
  | refused _ answer =>
    rw [Ledger.enter_refused answer]
    exact h
  | started done answer =>
    rw [Ledger.enter_started answer]
    exact h.start done
  | stopped read done answer =>
    obtain ⟨index, number, named, listed, sound⟩ := h.stop done
    rw [Ledger.enter_stopped read named listed answer]
    exact sound
  | selected done => exact h.select done
  | reset => exact { h with }

theorem Sound.apply (h : Sound b l) (c : Change) : Sound (b.apply c) (l.enter b c) :=
  h.effect (h.placed.effect c)

theorem Sound.after (h : Sound b l) (changes : List Change) :
    Sound (b.after changes) (l.follow b changes) := by
  induction changes generalizing b l with
  | nil => exact h
  | cons c rest ih => exact ih (h.apply c)

/-- Operations and invocations do not count as starts and stops. -/
theorem Counted.serves (h : Counted b l) {n : Nat} (served : b.Serves n b') : Counted b' l := by
  obtain ⟨outcomes, worked, -, -⟩ := served
  have apart (kind : OperationKind) : "algorithms.started" ≠ "operations." ++ kind.name ∧
      "algorithms.stopped" ≠ "operations." ++ kind.name := by
    cases kind <;> simp [OperationKind.name]
  have none (name : String) (other : name = "algorithms.started" ∨ name = "algorithms.stopped") :
      (outcomes.map (Outcome.raises name)).sum = 0 := by
    refine List.sum_eq_zero_iff_forall_eq_nat.mpr fun n member => ?_
    obtain ⟨outcome, _, rfl⟩ := List.mem_map.mp member
    obtain rfl | rfl := other <;> cases outcome <;> simp [Outcome.raises, apart]
  refine ⟨?_, ?_⟩
  · rw [worked.counters _ (by decide), none _ (.inl rfl), h.started]
    simp
  · rw [worked.counters _ (by decide), none _ (.inr rfl), h.stopped]
    simp

theorem Counted.effect (h : Counted b l) {c : Change} (effect : b.Effect c b')
    (kept : ∀ files, c ≠ .request files .resetCounters) : Counted b' (l.enter b c) := by
  cases effect with
  | invoked =>
    have raised : Counted (b.count "actions.executed") l := by
      refine ⟨?_, ?_⟩ <;> rw [counter_count]
      · simpa using h.started
      · simpa using h.stopped
    exact raised
  | completed served => exact h.serves served
  | plain plain served =>
    rw [Ledger.enter_plain plain]
    exact h.serves served
  | refused _ answer =>
    rw [Ledger.enter_refused answer]
    exact h
  | started done answer =>
    obtain ⟨s, after⟩ := start_eq_ok done
    rw [Ledger.enter_started answer, after]
    refine ⟨?_, ?_⟩ <;> rw [counter_increment (b := b) rfl]
    · simpa using h.started
    · simpa using h.stopped
  | stopped read done answer =>
    obtain ⟨index, number, s, named, listed, after⟩ := stop_eq_ok done
    rw [Ledger.enter_stopped read named listed answer, after]
    refine ⟨?_, ?_⟩ <;> rw [counter_increment (b := b) rfl]
    · simpa using h.started
    · simpa using h.stopped
  | selected done =>
    rw [select_eq_ok done]
    exact ⟨h.started, h.stopped⟩
  | reset => exact absurd rfl (kept _)

theorem Counted.after (h : Counted b l) (sound : Sound b l) {changes : List Change}
    (kept : ∀ files, .request files .resetCounters ∉ changes) :
    Counted (b.after changes) (l.follow b changes) := by
  induction changes generalizing b l with
  | nil => exact h
  | cons c rest ih =>
    have first : Counted (b.apply c) (l.enter b c) :=
      h.effect (sound.placed.effect c) fun files same => kept files (same ▸ List.mem_cons_self)
    exact ih first (sound.apply c) fun files member => kept files (List.mem_cons_of_mem c member)

theorem counted_fresh : Counted .fresh ⟨0, []⟩ := ⟨rfl, rfl⟩

/-- All that run are listed. -/
theorem Sound.storageInfos_eq (h : Sound b l) : ∃ info : Nat × Nat → StorageInfo,
    (∀ p, (info p).index = p.2 ∧ (info p).selected = (b.selected == some p.2)) ∧
      b.storageInfos = b.running.zipIdx.map info := by
  refine ⟨fun p => let s := b.storages.getD p.1 (.discard 0)
    ⟨p.2, s.name, s.size, b.selected == some p.2⟩, fun p => ⟨rfl, rfl⟩, ?_⟩
  rw [storageInfos, List.filterMap_map, ← List.filterMap_eq_map]
  refine List.filterMap_congr fun p member => ?_
  have there := h.placed.running p.1 (List.fst_mem_of_mem_zipIdx member)
  simp [info, storage?, there]

/-- No storage is listed and none is selected, or else exactly one of those that are listed is
marked as selected. -/
theorem Sound.marked (h : Sound b l) :
    b.storageInfos.map StorageInfo.index = List.range b.running.length ∧
      (b.storageInfos.filter (·.selected)).length = if b.running = [] then 0 else 1 := by
  obtain ⟨info, spec, listed⟩ := h.storageInfos_eq
  have indices : b.storageInfos.map StorageInfo.index = List.range b.running.length := by
    rw [listed, List.map_map, List.range_eq_range', ← List.zipIdx_map_snd]
    exact List.map_congr_left fun p _ => (spec p).1
  refine ⟨indices, ?_⟩
  have marks : (b.storageInfos.filter (·.selected)).length =
      (List.range b.running.length).countP (b.selected == some ·) := by
    rw [← List.countP_eq_length_filter, ← indices, List.countP_map, listed, List.countP_map,
      List.countP_map]
    exact List.countP_congr fun p _ => by simp [spec]
  rw [marks]
  cases selected : b.selected with
  | none => simp [h.idle selected]
  | some index =>
    have inside := h.inside index selected
    have some : b.running ≠ [] := List.ne_nil_of_length_pos (Nat.zero_lt_of_lt inside)
    rw [if_neg some]
    rw [← List.count_eq_one_of_mem List.nodup_range (List.mem_range.mpr inside)]
    exact List.countP_congr fun i _ => by
      simp only [beq_iff_eq, Option.some.injEq]
      exact eq_comm

theorem Sound.stop_eq_noneSelected (h : Sound b l) (index? : Option Nat) :
    b.stop index? = .error noneSelected ↔ index? = none ∧ b.running = [] := by
  unfold Bench.stop
  split
  · rename_i none
    obtain ⟨unnamed, selected⟩ := Option.or_eq_none_iff.mp none
    simp [unnamed, h.idle selected]
  · rename_i index named
    have listed : ¬ (index? = none ∧ b.running = []) := by
      rintro ⟨rfl, empty⟩
      have := h.inside index named
      simp [empty] at this
    simp only [listed, iff_false]
    split <;> simp [noneSelected, noSuchStorage]

theorem Sound.startJob_eq_noneSelected (h : Sound b l) (o : Operation) :
    b.startJob o = .error noneSelected ↔ b.running = [] := by
  rw [← h.hasSelected]
  unfold startJob Bench.hasSelected selectedStorage
  split <;> simp [Except.map, Except.toOption]

/-- The failure of all is the failure of one of them. -/
theorem mem_of_joined {results : List (Except Failure Operation)} {f : Failure}
    (h : joined results = .error f) : .error f ∈ results := by
  induction results with
  | nil => cases h
  | cons result rest ih =>
    cases result with
    | error g =>
      cases h
      exact List.mem_cons_self
    | ok o =>
      refine List.mem_cons_of_mem _ (ih ?_)
      cases later : joined rest with
      | error g =>
        simp only [joined] at later
        simp only [joined, List.mapM_cons, id_eq, later] at h
        exact h
      | ok done =>
        simp only [joined] at later
        simp only [joined, List.mapM_cons, id_eq, later] at h
        cases h

theorem Sound.waitJobs_ne_noneSelected (h : Sound b l) (files : FileTree) :
    (b.waitJobs files).1 ≠ .error noneSelected := by
  intro failed
  obtain ⟨_, _, placed, _⟩ := finishJobs_spec h.placed files
  obtain ⟨job, member, result⟩ := List.mem_filterMap.mp (mem_of_joined failed)
  cases job with
  | running => cases result
  | finished r =>
    obtain rfl := Option.some.inj result
    exact placed.jobs _ member rfl

/-- From a fresh bench on, whatever is asked of it and whenever operations in the background come
to their end: the storages that run are those that were started and not stopped, in the order of
their start. One is selected as long as there is one, so that only then a stop without an index and
an operation find none selected, and exactly one storage that is listed is marked. What is refused
changes nothing. The counters of starts and stops differ by the number of storages that run, as
long as the counters are not reset. -/
theorem storages_from_start_to_stop (changes : List Change) :
    let b := Bench.fresh.after changes
    let l := Ledger.follow ⟨0, []⟩ .fresh changes
    (b.running = (List.range l.started).filter (· ∉ l.stopped) ∧ l.stopped.Nodup ∧
      (∀ number ∈ l.stopped, number < l.started) ∧ b.storages.length = l.started) ∧
    ((b.selected.isSome ↔ b.running ≠ []) ∧
      (∀ index, b.selected = some index → index < b.running.length) ∧
      b.storageInfos.map StorageInfo.index = List.range b.running.length ∧
      (b.storageInfos.filter (·.selected)).length = if b.running = [] then 0 else 1) ∧
    ((∀ index?, b.stop index? = .error noneSelected ↔ index? = none ∧ b.running = []) ∧
      (∀ files o, (b.execute files o).1 = .error noneSelected ↔ b.running = []) ∧
      (∀ o, b.startJob o = .error noneSelected ↔ b.running = []) ∧
      ∀ files, (b.waitJobs files).1 ≠ .error noneSelected) ∧
    (∀ files request f, request.isListing = true → (b.carryOut files request).1 = .error f →
      (b.carryOut files request).2 = b) ∧
    ((∀ files, .request files .resetCounters ∉ changes) →
      b.counter "algorithms.started" - b.counter "algorithms.stopped" =
        UInt64.ofNat b.running.length ∧
      (l.started < 2 ^ 64 → (b.counter "algorithms.started").toNat =
        (b.counter "algorithms.stopped").toNat + b.running.length)) := by
  intro b l
  have sound : Sound b l := sound_fresh.after changes
  refine ⟨⟨sound.running, sound.distinct, sound.known, sound.storages⟩,
    ⟨⟨fun some none => ?_, fun listed => ?_⟩, sound.inside, sound.marked⟩,
    ⟨sound.stop_eq_noneSelected, fun files o => ?_, sound.startJob_eq_noneSelected,
      sound.waitJobs_ne_noneSelected⟩,
    fun files request f => carryOut_refused, fun kept => ?_⟩
  · obtain ⟨index, selected⟩ := Option.isSome_iff_exists.mp some
    have inside := sound.inside index selected
    rw [none] at inside
    exact absurd inside (Nat.not_lt_zero index)
  · by_contra none
    exact listed (sound.idle (Option.not_isSome_iff_eq_none.mp none))
  · obtain ⟨_, _, _, _, error⟩ := execute_spec sound.placed files o
    exact error.trans sound.hasSelected
  · have counted : Counted b l := counted_fresh.after sound_fresh kept
    rw [counted.started, counted.stopped]
    have balance := sound.balance
    refine ⟨?_, fun small => ?_⟩
    · rw [balance, UInt64.ofNat_add, UInt64.add_comm, UInt64.add_sub_cancel]
    · have fewer : l.stopped.length < 2 ^ 64 := by omega
      rw [UInt64.toNat_ofNat_of_lt' small, UInt64.toNat_ofNat_of_lt' fewer]
      exact balance

end Runbook.Bench
