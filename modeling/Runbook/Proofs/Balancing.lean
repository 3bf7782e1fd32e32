import Runbook.Proofs.Lifecycle
import Runbook.Proofs.Playing
/-! The balance of the counters: what has been carried out since they were reset, and what became
of it. -/
namespace Runbook

namespace Bench

structure Tally where
  /-- How many operations have found a storage. Those that went on in the background at the reset
  come to their end after it, and count. -/
  accepted : Nat
  /-- How many invocations have begun. -/
  invoked : Nat

def Tally.enter (t : Tally) (b : Bench) : Change → Tally
  | .invocation => { t with invoked := t.invoked + 1 }
  | .completion .. => t
  | .request _ .resetCounters => ⟨b.pending, 0⟩
  | .request _ request => { t with accepted := t.accepted + b.accepts request }

def Tally.follow (t : Tally) (b : Bench) : List Change → Tally
  | [] => t
  | c :: rest => (t.enter b c).follow (b.apply c) rest

theorem Tally.enter_request {t : Tally} {b : Bench} {files : FileTree} {request : Request}
    (kept : request ≠ .resetCounters) :
    t.enter b (.request files request) = { t with accepted := t.accepted + b.accepts request } := by
  cases request with
  | resetCounters => exact absurd rfl kept
  | _ => rfl

theorem Tally.enter_listing {t : Tally} {b : Bench} {files : FileTree} {request : Request}
    (listing : request.isListing = true) : t.enter b (.request files request) = t := by
  cases request with
  | startStorage | stopStorage | selectStorage => rfl
  | _ => cases listing

variable {b b' : Bench} {t : Tally} {outcomes more : List Outcome}

def executedKinds : List String :=
  ["operations.Insert", "operations.Count", "operations.Get", "operations.Search",
    "operations.Clear"]

/-- Every operation that is carried out fails or is completed, as one of the five kinds. -/
theorem sum_raises (outcomes : List Outcome) :
    (outcomes.map (Outcome.raises "operations.executed")).sum +
        (outcomes.map (Outcome.raises "operations.failed")).sum = outcomes.length ∧
      (outcomes.map (Outcome.raises "operations.executed")).sum =
        (executedKinds.map fun name => (outcomes.map (Outcome.raises name)).sum).sum := by
  induction outcomes with
  | nil => simp [executedKinds]
  | cons outcome rest ih =>
    have one : outcome.raises "operations.executed" + outcome.raises "operations.failed" = 1 ∧
        outcome.raises "operations.executed" =
          (executedKinds.map fun name => outcome.raises name).sum := by
      cases outcome with
      | none => decide
      | some kind =>
        have named := kind.name_mem_names
        simp only [Outcome.raises]
        generalize kind.name = name at named
        revert name
        decide
    simp only [List.map_cons, List.sum_cons, List.length_cons, executedKinds, List.map_nil,
      List.sum_nil] at ih one ⊢
    omega

def operationCounters : List String := "operations.executed" :: "operations.failed" :: executedKinds

/-- The counters of operations tell the outcomes, and that of the invocations tells these. -/
structure Balanced (b : Bench) (t : Tally) (outcomes : List Outcome) : Prop where
  accepted : outcomes.length + b.pending = t.accepted
  operations : ∀ name ∈ operationCounters,
    b.counter name = UInt64.ofNat ((outcomes.map (Outcome.raises name)).sum)
  invoked : b.counter "actions.executed" = UInt64.ofNat t.invoked

theorem balanced_fresh : Balanced .fresh ⟨0, 0⟩ [] := ⟨rfl, fun _ _ => rfl, rfl⟩

namespace Balanced

theorem worked (h : Balanced b t outcomes) (worked : b.Worked more b') {n : Nat}
    (count : more.length + b'.pending = b.pending + n) :
    Balanced b' { t with accepted := t.accepted + n } (outcomes ++ more) where
  accepted := by
    have before := h.accepted
    simp only [List.length_append]
    omega
  operations name member := by
    have apart : name ≠ "operations.millis" := by
      rintro rfl
      exact absurd member (by decide)
    rw [worked.counters name apart, h.operations name member, List.map_append, List.sum_append,
      UInt64.ofNat_add]
  invoked := by
    have none : (more.map (Outcome.raises "actions.executed")).sum = 0 := by
      refine List.sum_eq_zero_iff_forall_eq_nat.mpr fun n member => ?_
      obtain ⟨outcome, _, rfl⟩ := List.mem_map.mp member
      rcases outcome with _ | kind
      · rfl
      · cases kind <;> rfl
    rw [worked.counters _ (by decide), none, h.invoked]
    simp

theorem serves (h : Balanced b t outcomes) {n : Nat} (served : b.Serves n b') :
    ∃ more, Balanced b' { t with accepted := t.accepted + n } more := by
  obtain ⟨further, worked, _, count⟩ := served
  exact ⟨outcomes ++ further, h.worked worked count⟩

/-- Another counter may be raised. -/
theorem count (h : Balanced b t outcomes) (b' : Bench) (name : String)
    (apart : name ∉ "actions.executed" :: operationCounters)
    (raised : b'.statistics = b.statistics.increment name 1) (jobs : b'.jobs = b.jobs) :
    Balanced b' t outcomes where
  accepted := by simpa only [pending, jobs] using h.accepted
  operations other member := by
    have differs : other ≠ name := by
      rintro rfl
      exact apart (List.mem_cons_of_mem _ member)
    rw [counter_increment raised, if_neg differs, h.operations other member]
    simp
  invoked := by
    have differs : "actions.executed" ≠ name := by
      rintro rfl
      exact apart List.mem_cons_self
    rw [counter_increment raised, if_neg differs, h.invoked]
    simp

theorem invocation (h : Balanced b t outcomes) :
    Balanced (b.count "actions.executed") { t with invoked := t.invoked + 1 } outcomes where
  accepted := h.accepted
  operations name member := by
    have differs : name ≠ "actions.executed" := by
      rintro rfl
      exact absurd member (by decide)
    rw [counter_count, if_neg differs, h.operations name member]
    simp
  invoked := by
    rw [counter_count, if_pos rfl, h.invoked]
    simp

/-- Every change keeps the balance. -/
theorem effect (h : Balanced b t outcomes) {c : Change} (effect : b.Effect c b') :
    ∃ more, Balanced b' (t.enter b c) more := by
  cases effect with
  | invoked => exact ⟨outcomes, h.invocation⟩
  | completed served => exact h.serves served
  | plain plain served =>
    rw [Tally.enter_request fun same => absurd (same ▸ plain) (by decide)]
    exact h.serves served
  | refused listing =>
    rw [Tally.enter_listing listing]
    exact ⟨outcomes, h⟩
  | started done =>
    obtain ⟨s, after⟩ := start_eq_ok done
    exact ⟨outcomes, h.count _ "algorithms.started" (by decide) (after ▸ rfl) (after ▸ rfl)⟩
  | stopped _ done =>
    obtain ⟨index, number, s, named, listed, after⟩ := stop_eq_ok done
    exact ⟨outcomes, h.count _ "algorithms.stopped" (by decide) (after ▸ rfl) (after ▸ rfl)⟩
  | selected done =>
    rw [select_eq_ok done]
    exact ⟨outcomes, h.accepted, h.operations, h.invoked⟩
  | reset => exact ⟨[], Nat.zero_add _, fun _ _ => rfl, rfl⟩

theorem after {l : Ledger} (h : Balanced b t outcomes) (sound : Sound b l)
    (changes : List Change) :
    ∃ more, Balanced (b.after changes) (t.follow b changes) more := by
  induction changes generalizing b t outcomes l with
  | nil => exact ⟨outcomes, h⟩
  | cons c rest ih =>
    obtain ⟨_, one⟩ := h.effect (sound.placed.effect c)
    exact ih one (sound.apply c)

end Balanced

/-- What the counters tell. They count from zero again after `2 ^ 64 - 1`. -/
structure Tells (b : Bench) (t : Tally) : Prop where
  kinds : b.counter "operations.executed" = b.counter "operations.Insert" +
    b.counter "operations.Count" + b.counter "operations.Get" + b.counter "operations.Search" +
    b.counter "operations.Clear"
  operations : b.pending = 0 →
    b.counter "operations.executed" + b.counter "operations.failed" = UInt64.ofNat t.accepted
  actions : b.counter "actions.executed" = UInt64.ofNat t.invoked
  kindsBelow : t.accepted < 2 ^ 64 →
    (b.counter "operations.executed").toNat = (b.counter "operations.Insert").toNat +
      (b.counter "operations.Count").toNat + (b.counter "operations.Get").toNat +
      (b.counter "operations.Search").toNat + (b.counter "operations.Clear").toNat
  operationsBelow : t.accepted < 2 ^ 64 → b.pending = 0 →
    (b.counter "operations.executed").toNat + (b.counter "operations.failed").toNat = t.accepted
  actionsBelow : t.invoked < 2 ^ 64 → (b.counter "actions.executed").toNat = t.invoked

theorem Balanced.tells (h : Balanced b t outcomes) : Tells b t := by
  obtain ⟨whole, parts⟩ := sum_raises outcomes
  simp only [executedKinds, List.map_cons, List.map_nil, List.sum_cons, List.sum_nil] at parts
  have accepted := h.accepted
  have value (name : String) (member : name ∈ operationCounters)
      (small : (outcomes.map (Outcome.raises name)).sum < 2 ^ 64) :
      (b.counter name).toNat = (outcomes.map (Outcome.raises name)).sum := by
    rw [h.operations name member, UInt64.toNat_ofNat_of_lt' small]
  refine ⟨?_, fun idle => ?_, h.invoked, fun small => ?_, fun small idle => ?_, fun small => ?_⟩
  · rw [h.operations _ (by decide), h.operations "operations.Insert" (by decide),
      h.operations "operations.Count" (by decide), h.operations "operations.Get" (by decide),
      h.operations "operations.Search" (by decide), h.operations "operations.Clear" (by decide),
      parts]
    simp only [UInt64.ofNat_add, UInt64.add_assoc]
    simp
  · rw [h.operations _ (by decide), h.operations _ (by decide), ← UInt64.ofNat_add, whole]
    congr 1
    omega
  · have := value "operations.executed" (by decide)
    have := value "operations.Insert" (by decide)
    have := value "operations.Count" (by decide)
    have := value "operations.Get" (by decide)
    have := value "operations.Search" (by decide)
    have := value "operations.Clear" (by decide)
    omega
  · have := value "operations.executed" (by decide)
    have := value "operations.failed" (by decide)
    omega
  · rw [h.invoked, UInt64.toNat_ofNat_of_lt' small]

/-- The counters tell what has been done, whatever that is. -/
theorem tells_after (changes : List Change) :
    Tells (Bench.fresh.after changes) (Tally.follow ⟨0, 0⟩ .fresh changes) := by
  obtain ⟨_, balanced⟩ := balanced_fresh.after sound_fresh changes
  exact balanced.tells

end Bench

open Bench (Change)

def Due.changes (files : FileTree) : Due → List Change
  | .request r => [.request files r]
  | _ => []

def Mark.changes (v : World) : Mark → List Change
  | .event ⟨_, .invoked _⟩ => [.invocation]
  | .paused => (List.range v.bench.jobs.length).map (.completion v.files)
  | .completed index => [.completion v.files index]
  | _ => []

/-- What a log tells about the bench. -/
def benchChanges : Due → World → List Entry → List Change
  | _, _, [] => []
  | due, w, ⟨mark, v⟩ :: log =>
    due.changes w.files ++ mark.changes v ++ benchChanges (.ofMark mark) v log

section Log

variable {due : Due} {w u v : World} {mark : Mark} {log : List Entry} {l : Bench.Ledger}

theorem Quiet.bench (h : Quiet w v) : v.bench = w.bench := by
  obtain ⟨_, _, _, _, rfl⟩ := h
  rfl

theorem Due.Met.bench (h : due.Met w v) : v.bench = w.bench.after (due.changes w.files) := by
  cases due with
  | nothing => exact Quiet.bench h
  | request r => exact Quiet.bench h
  | repetition d =>
    obtain ⟨frame, -, scheduled⟩ := h
    obtain ⟨_, _, same⟩ := Action.schedule_eq d frame w
    rw [scheduled.bench, same]
    rfl

theorem Happening.Leaves.bench {what : Happening} (h : what.Leaves w v) (layers : List Layer) :
    v.bench = w.bench.after (Mark.changes v (.event ⟨layers, what⟩)) := by
  cases what with
  | started => exact h.2.bench
  | invoked | shutDown =>
    obtain ⟨_, _, _, _, rfl⟩ := h
    rfl
  | _ => exact Quiet.bench h

theorem bench_settle (sound : Bench.Sound u.bench l) :
    u.settle.bench = u.bench.after (Mark.changes u.settle .paused) := by
  obtain ⟨_, _, _, _, _, length⟩ := Bench.finishJobs_spec sound.placed u.files
  simp only [Mark.changes, World.settle, length, Bench.after, List.foldl_map]
  rfl

/-- A mark tells all that happens at the bench. -/
theorem Mark.Follows.bench (h : mark.Follows due w v) (sound : Bench.Sound w.bench l) :
    v.bench = w.bench.after (due.changes w.files ++ mark.changes v) := by
  cases mark with
  | event e =>
    obtain ⟨u, met, leaves⟩ := h
    rw [leaves.bench e.layers, met.bench]
    exact (List.foldl_append ..).symm
  | paused =>
    obtain ⟨u, met, rfl⟩ := h
    have after := sound.after (due.changes w.files)
    rw [← met.bench] at after
    rw [bench_settle after, met.bench]
    exact (List.foldl_append ..).symm
  | ended =>
    rw [Due.Met.bench h]
    simp [Mark.changes]
  | woken =>
    obtain ⟨rfl, now, _, rfl⟩ := h
    rfl
  | asked | begun | joined | shutDown | completed =>
    obtain ⟨rfl, rfl⟩ := h
    rfl

/-- A log tells all that happens at the bench. -/
theorem Chronicle.bench (h : Chronicle due w log v) (sound : Bench.Sound w.bench l) :
    v.bench = w.bench.after (benchChanges due w log) := by
  induction h generalizing l with
  | nil => rfl
  | @cons due w v w' mark log follows _ ih =>
    have first := follows.bench sound
    rw [ih (first ▸ sound.after _), first]
    exact (List.foldl_append ..).symm

end Log

/-- The counters of operations and of invocations tell what has been done since they were reset,
in whatever order this is, with operations in the background that come to their end at any time.
Whatever a session of a fresh world does at its bench is told by its log. -/
theorem counters_tell_what_was_done :
    (∀ changes : List Change,
      Bench.Tells (Bench.fresh.after changes) (Bench.Tally.follow ⟨0, 0⟩ .fresh changes)) ∧
    ∀ (catalogue : List Command) (logFilter : LogFilter) (clock : Clock) (files : FileTree)
      (steps : Nat),
      let e := Action.engine Command.perform steps
      let w := World.fresh catalogue logFilter clock files
      (∀ log scene, Scene.Plays e ⟨w, []⟩ log scene →
        scene.world.bench = Bench.fresh.after (benchChanges .nothing w log)) ∧
      ∀ moves s, Stage.session e moves (.ofWorld w) = some s →
        ∃ log scene, Scene.Plays e ⟨w, []⟩ log scene ∧ scene.world = s.world := by
  refine ⟨Bench.tells_after, fun catalogue logFilter clock files steps => ⟨?_, ?_⟩⟩
  · intro log scene plays
    obtain ⟨told, -⟩ := plays.chronicle (goes_engine steps) (by simp)
    exact told.bench Bench.sound_fresh
  · intro moves s went
    have shows : Scene.Shows ⟨.fresh catalogue logFilter clock files, []⟩ []
        (.ofWorld (.fresh catalogue logFilter clock files)) := ⟨rfl, [], rfl, .refl []⟩
    obtain ⟨log, scene, plays, shows, -⟩ := session_plays went shows rfl
    exact ⟨log, scene, plays, shows.1⟩

end Runbook
