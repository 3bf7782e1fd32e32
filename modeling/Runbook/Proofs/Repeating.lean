import Mathlib.Data.List.Chain
import Mathlib.Data.List.Perm.Subperm
import Runbook.Proofs.Keeping
import Runbook.Proofs.Playing
import Runbook.Proofs.Shutdown
/-! Repeated actions. An action that has succeeded begins to be repeated unless it is repeated
already; its repetition is registered until the repetitions are joined, and goes on with its own
frame. -/
namespace Runbook

open Course

def Descriptor.every? (d : Descriptor) : Option Nat := (Plan.resolve d).toOption.bind (·.every)

section Schedule

variable {d : Descriptor} {frame : Frame} {w : World}

theorem schedule_of_every? {interval : Nat} (every : d.every? = some interval)
    (free : w.repetitions.contains d.name = false) :
    Action.schedule d frame w =
      { w with
        repetitions := w.repetitions.set d.name ⟨frame, interval⟩
        starting := w.starting ++ [(d.name, ⟨frame, interval⟩)] } := by
  have asked : (Plan.resolve d).toOption.bind (·.every) = some interval := every
  simp [Action.schedule, asked, World.repeatAction, free]

/-- Nothing begins without an interval, nor a second time. -/
theorem schedule_of_not_free
    (taken : ∀ interval, d.every? = some interval → w.repetitions.contains d.name = true) :
    Action.schedule d frame w = w := by
  cases every : d.every? with
  | none =>
    have none : (Plan.resolve d).toOption.bind (·.every) = Option.none := every
    simp [Action.schedule, none]
  | some interval =>
    have asked : (Plan.resolve d).toOption.bind (·.every) = some interval := every
    simp [Action.schedule, asked, World.repeatAction, taken interval every]

end Schedule

/-- A name that is not there is added at the end. -/
theorem Table.entries_set {α : Type} {t : Table α} {name : String} (value : α)
    (free : t.contains name = false) :
    (t.set name value).entries = t.entries ++ [(name, value)] := by
  have put : ∀ l : List (String × α), Table.find name l = none →
      Table.put name value l = l ++ [(name, value)] := by
    intro l
    induction l with
    | nil => exact fun _ => rfl
    | cons e rest ih =>
      obtain ⟨key, old⟩ := e
      intro absent
      by_cases same : key = name
      · simp [Table.find, same] at absent
      · rw [Table.put, if_neg same, ih (by simpa [Table.find, same] using absent)]
        rfl
  exact put t.entries (by simpa [Table.contains, Table.get?] using free)

/-! ### What is registered -/

/-- What goes on in a world may register further repetitions, and undoes no shutdown. -/
structure World.Extends (w v : World) : Prop where
  registered : ∃ added, v.repetitions.entries = w.repetitions.entries ++ added ∧
    v.starting = w.starting ++ added
  down : w.shutdown = true → v.shutdown = true

namespace World.Extends

variable {u v w : World}

theorem refl (w : World) : w.Extends w := ⟨⟨[], by simp⟩, id⟩

theorem trans (h : u.Extends v) (h' : v.Extends w) : u.Extends w := by
  obtain ⟨⟨added, entries, starting⟩, down⟩ := h
  obtain ⟨⟨more, entries', starting'⟩, down'⟩ := h'
  exact ⟨⟨added ++ more, by rw [entries', entries, List.append_assoc],
    by rw [starting', starting, List.append_assoc]⟩, down' ∘ down⟩

end World.Extends

theorem Quiet.extends {w v : World} (h : Quiet w v) : w.Extends v := by
  obtain ⟨_, _, _, _, rfl⟩ := h
  exact ⟨⟨[], by simp⟩, id⟩

theorem extends_schedule (d : Descriptor) (frame : Frame) (w : World) :
    w.Extends (Action.schedule d frame w) := by
  by_cases taken : ∀ interval, d.every? = some interval → w.repetitions.contains d.name = true
  · rw [schedule_of_not_free taken]
    exact .refl w
  · simp only [not_forall, Bool.not_eq_true] at taken
    obtain ⟨interval, every, free⟩ := taken
    rw [schedule_of_every? every free]
    exact ⟨⟨_, Table.entries_set _ free, rfl⟩, id⟩

section Extends

variable {due : Due} {w v : World} {what : Happening}

theorem Due.Met.extends (h : due.Met w v) : w.Extends v := by
  cases due with
  | nothing => exact Quiet.extends h
  | request r =>
    have same : w.Extends { w with bench := (w.bench.carryOut w.files r).2 } := ⟨⟨[], by simp⟩, id⟩
    exact same.trans (Quiet.extends h)
  | repetition d =>
    obtain ⟨frame, -, scheduled⟩ := h
    exact (extends_schedule d frame w).trans scheduled.extends

theorem Happening.Leaves.extends (h : what.Leaves w v) : w.Extends v := by
  cases what with
  | started => exact h.2.extends
  | invoked | shutDown =>
    obtain ⟨_, _, _, _, rfl⟩ := h
    exact ⟨⟨[], by simp [World.count, World.shutDown]⟩, by simp [World.count, World.shutDown]⟩
  | _ => exact Quiet.extends h

theorem World.extends_settle (w : World) : w.Extends w.settle := ⟨⟨[], by simp [World.settle]⟩, id⟩

/-- Up to the next wait nothing that is registered is lost. -/
theorem Course.Bursts.extends {Q : Due → World → Unit → World → Prop} {c : Course World Unit}
    {log : List Entry} {sleeper? : Option Sleeper} (h : c.Bursts log v sleeper?)
    (heeds : Heeds [] Q due w c) (ended : ∀ due w a v, Q due w a v → due.Met w v) :
    w.Extends v := by
  induction h generalizing due w with
  | ended =>
    cases heeds with
    | done last => exact (ended _ _ _ _ last).extends
  | paused =>
    cases heeds with
    | wait met settled _ => exact settled ▸ met.extends.trans (World.extends_settle _)
  | note _ ih =>
    cases heeds with
    | note met leaves rest => exact (met.extends.trans leaves.extends).trans (ih rest)

end Extends

/-! ### What goes on -/

/-- How a repeated action goes on. It waits and runs again and again, and each run has the frame
that its own last run left. -/
inductive Repetition.Repeats (run : Runner) (action : String) :
    Repetition → World → List (Step World) → Prop
  | waiting {r : Repetition} {w : World} : Repeats run action r w []
  | stopped {r : Repetition} {w now : World} (down : now.shutdown = true) :
      Repeats run action r w [.waited ⟨some (w.now + r.pause), true⟩ w now]
  | running {r : Repetition} {w now : World} {path : List (Step World)}
      {c : Course World (Answer × Frame)} (on : now.shutdown = false)
      (went : (run ⟨action, .console, false⟩ r.frame now).Reaches path c) :
      Repeats run action r w (.waited ⟨some (w.now + r.pause), true⟩ w now :: path)
  | again {r : Repetition} {w now v : World} {path rest : List (Step World)} {answer : Answer}
      {left : Frame} (on : now.shutdown = false)
      (went : (run ⟨action, .console, false⟩ r.frame now).Ends path (answer, left) v)
      (kept : left.control = r.frame.control)
      (later : Repeats run action { r with frame := left } v.settle rest) :
      Repeats run action r w
        (.waited ⟨some (w.now + r.pause), true⟩ w now :: (path ++ rest))

section Course

variable {run : Runner} {action : String} {rounds : Nat} {r : Repetition} {w v : World}
  {path : List (Step World)}

theorem Repetition.repeats_of_reaches (keeps : Runner.Keeps run) {c : Course World Unit}
    (h : (course run action rounds r w).Reaches path c) : r.Repeats run action w path := by
  induction rounds generalizing r w path c with
  | zero =>
    obtain ⟨rfl, -⟩ := reaches_stuck.mp h
    exact .waiting
  | succ rounds ih =>
    rw [course_succ] at h
    cases h with
    | here => exact .waiting
    | @wait _ _ now _ path _ h =>
      unfold woken at h
      split at h
      · obtain ⟨rfl, -⟩ := reaches_done.mp h
        exact .stopped ‹_›
      · have on : now.shutdown = false := by simpa using ‹¬ now.shutdown = true›
        obtain ⟨_, went, -⟩ | ⟨p, q, ⟨answer, left⟩, u, rfl, -, went, later⟩ :=
          reaches_bind_cases h
        · exact .running on went
        · exact .again on went (keeps _ _ _ _ _ _ went).control (ih later)

/-- A repetition comes to its end only where it has found the shutdown. -/
theorem Repetition.down_of_ends (h : (course run action rounds r w).Ends path () v) :
    v.shutdown = true := by
  induction rounds generalizing r w path with
  | zero => exact absurd h not_ends_stuck
  | succ rounds ih =>
    rw [course_succ] at h
    obtain ⟨now, rest, rfl, awake⟩ := ends_wait.mp h
    unfold woken at awake
    split at awake
    · obtain ⟨-, -, rfl⟩ := ends_done.mp awake
      assumption
    · obtain ⟨_, _, _, _, rfl, _, later⟩ := ends_bind.mp awake
      exact ih later

end Course

theorem Course.Bursts.reaches {c : Course World Unit} {log : List Entry} {v : World}
    {sleeper? : Option Sleeper} (h : c.Bursts log v sleeper?) :
    ∃ path, match sleeper? with
      | some s => c.Reaches path (.wait s.reason v s.next)
      | none => c.Ends path () v := by
  induction h with
  | ended => exact ⟨[], .here⟩
  | paused => exact ⟨[], .here⟩
  | @note _ _ _ _ _ sleeper? _ ih =>
    obtain ⟨path, later⟩ := ih
    cases sleeper? <;> exact ⟨_, .note later⟩

/-- What a thread waits for is where the repetition of its action has come to. -/
def Thread.Goes (e : Engine) (t : Thread) : Prop :=
  ∀ action r, t.task = some (action, r) → ∃ w path v,
    (r.course e.run action e.limit w).Reaches path (.wait t.sleeper.reason v t.sleeper.next)

theorem Thread.goes_ofTask {e : Engine} {rounds : Nat} (bound : e.limit = rounds + 1) (w : World)
    (task : String × Repetition) : (Thread.ofTask e rounds w task).Goes e := by
  rintro action r same
  obtain rfl := Option.some.inj same
  refine ⟨w, [], w, ?_⟩
  rw [bound, Repetition.course_succ]
  exact .here

/-- When it wakes it goes on from there, and comes to its end only after the shutdown. -/
theorem Thread.Goes.burst {e : Engine} {t : Thread} (h : t.Goes e) {now v : World}
    {log : List Entry} {sleeper? : Option Sleeper}
    (went : (t.sleeper.next now).Bursts log v sleeper?) :
    (∀ s, sleeper? = some s → (Thread.mk t.task s).Goes e) ∧
      (sleeper? = none → t.task ≠ none → v.shutdown = true) := by
  obtain ⟨path, later⟩ := went.reaches
  refine ⟨?_, ?_⟩
  · rintro s rfl action r task
    obtain ⟨w, before, u, reached⟩ := h action r task
    exact ⟨w, _, v, reached.trans (.wait later)⟩
  · rintro rfl known
    obtain ⟨⟨action, r⟩, task⟩ := Option.ne_none_iff_exists'.mp known
    obtain ⟨w, before, u, reached⟩ := h action r task
    exact Repetition.down_of_ends (reached.trans (.wait later))

namespace Scene

def tasks (s : Scene) : List (String × Repetition) :=
  s.threads.filterMap Thread.task ++ s.world.starting

/-- What goes on is registered, and all that is registered goes on until the shutdown. -/
structure Tended (e : Engine) (s : Scene) : Prop where
  registered : s.tasks.Subperm s.world.repetitions.entries
  all : s.world.shutdown = false → s.tasks.Perm s.world.repetitions.entries
  going : ∀ thread ∈ s.threads, thread.Goes e

variable {e : Engine} {s t : Scene} {log : List Entry}

/-- What has gone on up to its next wait, or to its end, is tended as before. -/
theorem tended_burst {w v : World} {others : List Thread} {task : Option (String × Repetition)}
    {sleeper? : Option Sleeper}
    (registered : (task.toList ++ tasks ⟨w, others⟩).Subperm w.repetitions.entries)
    (all : w.shutdown = false → (task.toList ++ tasks ⟨w, others⟩).Perm w.repetitions.entries)
    (going : ∀ thread ∈ others, thread.Goes e) (grows : w.Extends v)
    (goes : ∀ s, sleeper? = some s → (Thread.mk task s).Goes e)
    (ends : sleeper? = none → task ≠ none → v.shutdown = true) :
    Tended e ⟨v, others ++ (sleeper?.map (Thread.mk task)).toList⟩ := by
  obtain ⟨⟨added, entries, starting⟩, down⟩ := grows
  -- The task goes on with what waits now, if anything does.
  have after : (tasks ⟨v, others ++ (sleeper?.map (Thread.mk task)).toList⟩).Perm
      ((sleeper?.bind fun _ => task).toList ++ tasks ⟨w, others⟩ ++ added) := by
    cases sleeper? <;> cases task <;> simp [tasks, starting]
  refine ⟨?_, fun up => ?_, fun thread member => ?_⟩
  · have fewer : ((sleeper?.bind fun _ => task).toList ++ tasks ⟨w, others⟩).Subperm
        (task.toList ++ tasks ⟨w, others⟩) := by
      cases sleeper? with
      | none => exact (List.sublist_append_right ..).subperm
      | some s => exact .refl _
    rw [entries]
    exact after.subperm.trans ((List.subperm_append_right _).mpr (fewer.trans registered))
  · have same : (sleeper?.bind fun _ => task) = task := by
      cases sleeper? with
      | some s => rfl
      | none =>
        by_contra known
        simp [ends rfl (Ne.symm known)] at up
    rw [same] at after
    rw [entries]
    exact after.trans ((all (by simpa using mt down (by simpa using up))).append_right _)
  · obtain member | member := List.mem_append.mp member
    · exact going thread member
    · obtain ⟨s, found, rfl⟩ := Option.map_eq_some_iff.mp (Option.mem_toList.mp member)
      exact goes s found

theorem Steps.tended (runs : Runner.Goes e.run) (h : Steps e s log t) (tended : Tended e s)
    (heeds : ∀ thread ∈ s.threads, thread.sleeper.Heeds) : Tended e t := by
  obtain ⟨registered, all, going⟩ := tended
  cases h with
  | @ask w _ _ _ _ errand went =>
    refine tended_burst registered all going ?_ ?_ ?_
    · exact went.extends (errand.heeds_course runs w) fun _ _ _ _ => id
    · intro s _ _ _ task
      cases task
    · exact fun _ known => absurd rfl known
  | @wake w _ threads others thread _ _ _ one _ went =>
    have member : thread ∈ threads := one.mem_iff.mpr List.mem_cons_self
    have order : (tasks ⟨w, threads⟩).Perm (thread.task.toList ++ tasks ⟨w, others⟩) := by
      have order := (one.filterMap Thread.task).append_right w.starting
      cases task : thread.task <;> simpa [tasks, task] using order
    obtain ⟨goes, ends⟩ := (going thread member).burst went
    have grows := went.extends (heeds thread member _) fun _ _ _ _ => id
    refine tended_burst ?_ ?_ ?_ grows goes ends
    · exact order.symm.subperm.trans registered
    · exact fun up => order.symm.trans (all up)
    · exact fun other there => going other (one.mem_iff.mpr (List.mem_cons_of_mem _ there))
  | @begin w threads rounds bound =>
    have same : tasks ⟨{ w with starting := [] }, threads ++
        w.starting.map (Thread.ofTask e rounds { w with starting := [] })⟩ =
        tasks ⟨w, threads⟩ := by
      simp [tasks, List.filterMap_map, Function.comp_def, Thread.ofTask]
    refine ⟨same ▸ registered, fun up => same ▸ all up, fun thread member => ?_⟩
    obtain member | member := List.mem_append.mp member
    · exact going thread member
    · obtain ⟨task, _, rfl⟩ := List.mem_map.mp member
      exact Thread.goes_ofTask bound _ task
  | @join w threads begun =>
    have none : tasks ⟨{ w with repetitions := .empty },
        threads.map fun t => { t with task := none }⟩ = [] := by
      simp [tasks, begun]
    refine ⟨none ▸ List.nil_subperm, fun _ => none ▸ .refl _, fun thread member => ?_⟩
    obtain ⟨_, _, rfl⟩ := List.mem_map.mp member
    intro _ _ task
    cases task
  | shutDown => exact ⟨registered, fun up => absurd up (by simp [World.shutDown]), going⟩
  | complete index => exact ⟨registered, all, going⟩

theorem Plays.tended (runs : Runner.Goes e.run) (h : Plays e s log t) (tended : Tended e s)
    (heeds : ∀ thread ∈ s.threads, thread.sleeper.Heeds) : Tended e t := by
  induction h with
  | here => exact tended
  | step one _ ih => exact ih (one.tended runs tended heeds) (one.chronicle runs heeds).2

end Scene

/-! ### The log -/

/-- The loop of an action has come to its end with success. -/
def Mark.Succeeds (d : Descriptor) (mark : Mark) : Prop :=
  ∃ layers outlet, mark = .event ⟨layers, .finished (.ok true)⟩ ∧
    layers.getLast? = some (.action ⟨d, outlet⟩)

def Mark.Starts : Mark → Prop
  | .event ⟨_, .started ..⟩ => True
  | _ => False

inductive Entry.Registers (x y : Entry) : Prop
  | created (d : Descriptor) (interval : Nat) (frame : Frame) (succeeds : x.mark.Succeeds d)
      (every : d.every? = some interval) (free : x.world.repetitions.contains d.name = false)
      (read : ∃ vars, d = .read frame.control d.name vars)
      (set : y.world.repetitions = x.world.repetitions.set d.name ⟨frame, interval⟩)
  | kept (taken : ∀ d interval, x.mark.Succeeds d → d.every? = some interval →
        x.world.repetitions.contains d.name = true)
      (same : y.world.repetitions = x.world.repetitions)
  | joined (mark : y.mark = .joined) (fails : ∀ d, ¬ x.mark.Succeeds d)
      (emptied : y.world.repetitions = .empty)

section Log

variable {due : Due} {w u v : World} {mark : Mark} {log : List Entry} {d : Descriptor}

theorem ofMark_eq_repetition : Due.ofMark mark = .repetition d ↔ mark.Succeeds d := by
  constructor
  · intro h
    unfold Due.ofMark at h
    split at h
    · unfold Due.ofCommand at h
      split at h <;> cases h
    · rename_i e
      obtain ⟨layers, what⟩ := e
      simp only [Due.ofEvent] at h
      split at h
      · unfold Due.ofCommand at h
        split at h <;> cases h
      · split at h
        · rename_i l last
          cases h
          exact ⟨layers, l.outlet, rfl, last⟩
        · cases h
      · cases h
    · cases h
  · rintro ⟨layers, outlet, rfl, last⟩
    simp [Due.ofMark, Due.ofEvent, last]

theorem Quiet.repetitions (h : Quiet w v) : v.repetitions = w.repetitions := by
  obtain ⟨_, _, _, _, rfl⟩ := h
  rfl

theorem Happening.Leaves.repetitions {what : Happening} (h : what.Leaves w v) :
    v.repetitions = w.repetitions := by
  cases what with
  | started => exact h.2.repetitions
  | invoked | shutDown =>
    obtain ⟨_, _, _, _, rfl⟩ := h
    rfl
  | _ => exact Quiet.repetitions h

/-- What is due after a mark decides what is registered next. -/
theorem Due.Met.registers {x y : Entry} (h : (Due.ofMark x.mark).Met x.world u)
    (same : y.world.repetitions = u.repetitions) : x.Registers y := by
  cases due : Due.ofMark x.mark with
  | nothing | request =>
    rw [due] at h
    obtain ⟨_, _, _, _, rfl⟩ := h
    refine .kept (fun d _ succeeds => ?_) same
    cases due.symm.trans (ofMark_eq_repetition.mpr succeeds)
  | repetition d =>
    rw [due] at h
    obtain ⟨frame, ⟨action, vars, read⟩, scheduled⟩ := h
    rw [scheduled.repetitions] at same
    by_cases taken : ∀ interval, d.every? = some interval →
        x.world.repetitions.contains d.name = true
    · rw [schedule_of_not_free taken] at same
      refine .kept (fun d' interval succeeds every => ?_) same
      obtain rfl : d = d' := by
        cases due.symm.trans (ofMark_eq_repetition.mpr succeeds)
        rfl
      exact taken interval every
    · simp only [not_forall, Bool.not_eq_true] at taken
      obtain ⟨interval, every, free⟩ := taken
      rw [schedule_of_every? every free] at same
      refine .created d interval frame (ofMark_eq_repetition.mp due) every free ⟨vars, ?_⟩ same
      rw [read]
      rfl

theorem Mark.Follows.registers {x y : Entry}
    (h : y.mark.Follows (Due.ofMark x.mark) x.world y.world) : x.Registers y := by
  obtain ⟨mark, v⟩ := y
  have quiet (nothing : Due.ofMark x.mark = .nothing)
      (same : v.repetitions = x.world.repetitions) : x.Registers ⟨mark, v⟩ := by
    refine .kept (fun d _ succeeds => ?_) same
    cases nothing.symm.trans (ofMark_eq_repetition.mpr succeeds)
  cases mark with
  | event e =>
    obtain ⟨u, met, leaves⟩ := h
    exact met.registers leaves.repetitions
  | paused =>
    obtain ⟨u, met, rfl⟩ := h
    exact met.registers rfl
  | ended => exact Due.Met.registers h rfl
  | joined =>
    obtain ⟨nothing, rfl⟩ := h
    refine .joined rfl (fun d succeeds => ?_) rfl
    cases nothing.symm.trans (ofMark_eq_repetition.mpr succeeds)
  | woken =>
    obtain ⟨nothing, _, _, rfl⟩ := h
    exact quiet nothing rfl
  | asked | begun | shutDown | completed =>
    obtain ⟨nothing, rfl⟩ := h
    exact quiet nothing rfl

/-- Nothing but the marks of a log changes the registry. -/
theorem Chronicle.registers (h : Chronicle due w log v) (known : due = .ofMark mark) :
    (⟨mark, w⟩ :: log).IsChain Entry.Registers := by
  induction h generalizing mark with
  | nil => exact .singleton _
  | cons follows _ ih => exact .cons_cons (Mark.Follows.registers (known ▸ follows)) (ih rfl)

/-- What is registered stays so until the repetitions are joined. -/
theorem Entry.Registers.keeps {x y : Entry} (h : x.Registers y) (other : y.mark ≠ .joined) :
    x.world.repetitions.entries <+: y.world.repetitions.entries := by
  cases h with
  | created d interval frame _ _ free _ set =>
    rw [set, Table.entries_set _ free]
    exact List.prefix_append ..
  | kept _ same => exact same ▸ List.prefix_rfl
  | joined mark _ _ => exact absurd mark other

theorem prefix_of_isChain {x y : Entry} (between : List Entry)
    (h : (x :: (between ++ [y])).IsChain Entry.Registers)
    (others : ∀ z ∈ between ++ [y], z.mark ≠ .joined) :
    x.world.repetitions.entries <+: y.world.repetitions.entries := by
  induction between generalizing x with
  | nil =>
    cases h with
    | cons_cons one _ => exact one.keeps (others y List.mem_cons_self)
  | cons z between ih =>
    cases h with
    | cons_cons one rest =>
      exact (one.keeps (others z List.mem_cons_self)).trans
        (ih rest fun z member => others z (List.mem_cons_of_mem _ member))

/-- The shutdown is not taken back, and no command is started after it. -/
theorem Mark.Follows.down (h : mark.Follows due w v) (down : w.shutdown = true) :
    v.shutdown = true ∧ ¬ mark.Starts := by
  cases mark with
  | event e =>
    obtain ⟨layers, what⟩ := e
    obtain ⟨u, met, leaves⟩ := h
    have still := met.extends.down down
    refine ⟨leaves.extends.down still, fun starts => ?_⟩
    cases what with
    | started => exact absurd still (by simp [leaves.1])
    | _ => exact starts
  | paused =>
    obtain ⟨u, met, rfl⟩ := h
    exact ⟨met.extends.down down, id⟩
  | ended => exact ⟨(Due.Met.extends h).down down, id⟩
  | woken =>
    obtain ⟨_, _, _, rfl⟩ := h
    exact ⟨down, id⟩
  | shutDown =>
    obtain ⟨_, rfl⟩ := h
    exact ⟨rfl, id⟩
  | asked | begun | joined | completed =>
    obtain ⟨_, rfl⟩ := h
    exact ⟨down, id⟩

theorem Chronicle.down (h : Chronicle due w log v) (down : w.shutdown = true) :
    ∀ y ∈ log, ¬ y.mark.Starts := by
  induction h with
  | nil => simp
  | cons follows _ ih =>
    obtain ⟨still, none⟩ := follows.down down
    simpa using ⟨none, ih still⟩

theorem Chronicle.pairwise_down (h : Chronicle due w log v) :
    log.Pairwise fun x y => x.world.shutdown = true → ¬ y.mark.Starts := by
  induction h with
  | nil => exact .nil
  | cons follows rest ih => exact .cons (fun y member down => rest.down down y member) ih

end Log

/-! ### Executions -/

section Executions

variable {perform : Performer} {e : Engine} {call : Call} {frame : Frame} {w w' : World}
  {path more : List (Step World)} {r : Answer × Frame}

theorem lastState_append (w : World) (path more : List (Step World)) :
    lastState w (path ++ more) = lastState (lastState w path) more := by
  induction path generalizing w with
  | nil => rfl
  | cons step rest ih => exact ih _

theorem lastState_under (layer : Layer) (w : World) (path : List (Step World)) :
    lastState w (path.map (Step.under layer)) = lastState w path := by
  induction path generalizing w with
  | nil => rfl
  | cons step rest ih => cases step <;> exact ih _

theorem repetitions_lastState {u v : World} (same : u.repetitions = v.repetitions)
    (path : List (Step World)) :
    (lastState u path).repetitions = (lastState v path).repetitions := by
  cases path with
  | nil => exact same
  | cons => rfl

theorem Said.lastState {sink : Sink} (h : Said sink w path w') : lastState w path = w' := by
  cases h <;> rfl

theorem Outlet.Resolved.repetitions {d : Descriptor} {caller : Sink} {o : Option Outlet × Frame}
    (h : Resolved d caller frame w path o w') :
    w'.repetitions = (lastState w path).repetitions := by
  cases h with
  | caller | capture => rfl
  | file _ warned opened =>
    obtain ⟨_, _, rfl, rfl⟩ := openFile_eq_ok opened
    rw [warned.lastState]
  | refused _ warned said => rw [lastState_append, warned.lastState, said.lastState]

theorem Action.Carried.lastState {d : Descriptor} (h : Carried perform e call d frame w path r w') :
    lastState w path = w' := by
  cases h with
  | unplanned _ said => exact said.lastState
  | ran => simp only [lastState_append, Runbook.lastState, Step.state]

theorem Course.Alike.lastState (alike : Alike path more) (w : World) (text : String) :
    ∃ text', Runbook.lastState { w with text } more =
      { Runbook.lastState w path with text := text' } := by
  induction alike generalizing w text with
  | nil => exact ⟨text, rfl⟩
  | @event _ s text' _ _ _ ih => exact ih s text'
  | @waited _ _ now _ inner _ _ _ ih => exact ih { now with text := inner } now.text

theorem Action.Went.repetitions {d : Descriptor} {outlet : Outlet}
    (h : Went (fun sink => carryOut perform e { call with sink } d) call.sink outlet frame w path r
      w') : w'.repetitions = (Runbook.lastState w path).repetitions := by
  cases h with
  | plain _ ran => rw [(carried ran).lastState]
  | captured _ ran alike rest =>
    obtain ⟨text, same⟩ := alike.lastState { w with text := "" } w.text
    rw [(carried ran).lastState] at same
    rw [rest, show Runbook.lastState w path = _ from same]

/-- In the end of an execution its repetition is registered, if it has succeeded and asks for one
that is not registered yet; and that has the frame that the execution leaves. -/
theorem repetitions_ran (h : Action.Ran perform e call frame w path r w') {d : Descriptor}
    (read : d = .read frame.control call.action frame.vars) :
    (∀ interval, r.1 = .ok true → d.every? = some interval →
      (lastState w path).repetitions.contains call.action = false →
      w'.repetitions = (lastState w path).repetitions.set call.action ⟨r.2, interval⟩) ∧
    ((∀ interval, r.1 = .ok true → d.every? = some interval →
        (lastState w path).repetitions.contains call.action = true) →
      w'.repetitions = (lastState w path).repetitions) := by
  have name : d.name = call.action := read ▸ rfl
  cases h with
  | refused _ resolved => exact ⟨fun _ ok => absurd ok (by simp), fun _ => resolved.repetitions⟩
  | @ran d' outlet path inside opened left answer w₁ w₂ read' resolved went =>
    obtain rfl : d' = d := read'.trans read.symm
    have last : w₂.repetitions = (lastState w (.event ⟨[], .invoked d'⟩
        (w.count "actions.executed") :: (path ++ inside.map (Step.under
          (.action ⟨d', outlet⟩))))).repetitions := by
      rw [lastState, lastState_append, lastState_under, went.repetitions]
      exact repetitions_lastState resolved.repetitions _
    rw [← last, ← name]
    refine ⟨fun interval ok every free => ?_, fun taken => ?_⟩
    · cases ok
      rw [Action.scheduled, schedule_of_every? every free]
    · rcases answer with f | _ | _
      · rfl
      · rfl
      · rw [Action.scheduled, schedule_of_not_free fun interval => taken interval rfl]

end Executions

theorem Scene.tended_fresh (e : Engine) (catalogue : List Command) (logFilter : LogFilter)
    (clock : Clock) (files : FileTree) :
    Scene.Tended e ⟨.fresh catalogue logFilter clock files, []⟩ :=
  ⟨List.nil_subperm, fun _ => .refl _, fun _ member => absurd member List.not_mem_nil⟩

/-- Repetitions over a session of a fresh world, whatever is asked of it and however the runs take
turns. No action is registered twice, and what goes on is registered, until the shutdown ends it.
The registry changes only where the loop of an action has come to its end with success, asks for a
repetition and is not registered yet, or where the repetitions are joined; until then it keeps all
entries as they are. A repetition goes on from run to run with the control file, the interval and
the frame that it was registered with, and nothing else is handed to it. After the shutdown no
command is started.

An execution registers a repetition of its action with the frame that it leaves itself; and whatever
goes on while it waits, its variables change only by what it assigns itself. -/
theorem repetitions_of_a_session (catalogue : List Command) (logFilter : LogFilter) (clock : Clock)
    (files : FileTree) (steps : Nat) :
    let e := Action.engine Command.perform steps
    let fresh := World.fresh catalogue logFilter clock files
    (∀ log scene, Scene.Plays e ⟨fresh, []⟩ log scene →
      (scene.world.repetitions.keys.Nodup ∧
        scene.tasks.Subperm scene.world.repetitions.entries ∧
        (scene.world.shutdown = false → scene.tasks.Perm scene.world.repetitions.entries)) ∧
      (⟨.begun, fresh⟩ :: log).IsChain Entry.Registers ∧
      (∀ before x between y after,
        ⟨.begun, fresh⟩ :: log = before ++ (x :: (between ++ [y])) ++ after →
        (∀ z ∈ between ++ [y], z.mark ≠ .joined) →
        x.world.repetitions.entries <+: y.world.repetitions.entries) ∧
      (∀ thread ∈ scene.threads, ∀ action r, thread.task = some (action, r) → ∃ w path v,
        (r.course e.run action e.limit w).Reaches path
          (.wait thread.sleeper.reason v thread.sleeper.next) ∧ r.Repeats e.run action w path) ∧
      log.Pairwise fun x y => x.world.shutdown = true → ¬ y.mark.Starts) ∧
    (∀ call frame w path r w', (e.run call frame w).Ends path r w' →
      let d := Descriptor.read frame.control call.action frame.vars
      let last := lastState w path
      ((∀ interval, r.1 = .ok true → d.every? = some interval →
          last.repetitions.contains call.action = false →
          w'.repetitions = last.repetitions.set call.action ⟨r.2, interval⟩) ∧
        ((∀ interval, r.1 = .ok true → d.every? = some interval →
            last.repetitions.contains call.action = true) →
          w'.repetitions = last.repetitions)) ∧
      r.2.control = frame.control ∧
      ∀ x, r.2.vars.get? x ≠ frame.vars.get? x → Assigned x (events path)) ∧
    ∀ moves s, Stage.session e moves (.ofWorld fresh) = some s →
      ∃ log scene, Scene.Plays e ⟨fresh, []⟩ log scene ∧ scene.Shows [] s := by
  intro e fresh
  have keeps : Runner.Keeps e.run := keeps_runner Command.perform steps
  refine ⟨fun log scene plays => ?_, fun call frame w path r w' ends => ?_, fun moves s went => ?_⟩
  · have tended := plays.tended (goes_engine steps) (Scene.tended_fresh e ..) (by simp)
    obtain ⟨told, -⟩ := plays.chronicle (goes_engine steps) (by simp)
    have chain : (⟨.begun, fresh⟩ :: log).IsChain Entry.Registers := told.registers rfl
    refine ⟨⟨scene.world.repetitions.distinct, tended.registered, tended.all⟩, chain,
      fun before x between y after split others => ?_, fun thread member action r task => ?_,
      told.pairwise_down⟩
    · rw [split] at chain
      exact prefix_of_isChain between chain.left_of_append.right_of_append others
    · obtain ⟨w, path, v, reached⟩ := tended.going thread member action r task
      exact ⟨w, path, v, reached, Repetition.repeats_of_reaches keeps reached⟩
  · have kept := keeps _ _ _ _ _ _ ends
    refine ⟨?_, kept.control, fun x differs => kept.changed x id differs⟩
    cases steps with
    | zero => exact absurd ends not_ends_stuck
    | succ steps => exact repetitions_ran (Action.ran ends) rfl
  · have shows : Scene.Shows ⟨fresh, []⟩ [] (.ofWorld fresh) := ⟨rfl, [], rfl, .refl []⟩
    obtain ⟨log, scene, plays, shows, -⟩ := session_plays went shows rfl
    exact ⟨log, scene, plays, shows⟩

/-- An action that is repeated twice until the shutdown. -/
example :
    let control : ControlFile :=
      .ofList [("a", "echo"), ("a.param.1", "hi"), ("a.repeatEvery", "10 ms")]
    let w := World.fresh Command.withLog ⟨[], []⟩ ⟨0, 0⟩ (FileTree.bare [])
    (Stage.session (Action.engine Command.perform 6)
      [.ask (.run ⟨"a", .text, false⟩ control .empty), .ask (.pause 25), .shutDown]
      (.ofWorld w)).map (fun s => (s.world.repetitions.keys, s.world.text, s.world.console)) =
      some (["a"], "hi\n", "hi\nhi\n") := by
  decide +kernel

end Runbook
