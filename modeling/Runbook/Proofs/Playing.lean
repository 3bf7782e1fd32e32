import Runbook.Proofs.Heeding
import Runbook.Run.Stage
/-! Sessions step by step. Whatever goes on, in the foreground and in the background, goes on from
one wait to the next one without a break, and what it does to the world is told by a log. A session
that is played is one way through these steps. -/
namespace Runbook

open Course

inductive Errand where
  /-- An action of a control file is run. -/
  | run (call : Call) (control : ControlFile) (vars : Variables)
  | command (c : Command) (args : List String) (sink : Sink)
  /-- Time passes. -/
  | pause (milliseconds : Nat)

def Errand.course (e : Engine) (w : World) : Errand → Course World Unit
  | run call control vars => (e.run call (.fresh control vars) w).map fun _ => ()
  | command c args sink => (c.perform e args sink w).map fun _ => ()
  | pause milliseconds => w.pause milliseconds

inductive Mark where
  | asked (errand : Errand)
  | event (e : Event)
  /-- What goes on has begun to wait. -/
  | paused
  /-- It has come to its end. -/
  | ended
  | woken
  /-- Repetitions that were asked for have begun. -/
  | begun
  /-- The repeated actions have been forgotten. -/
  | joined
  | shutDown
  /-- An operation in the background has come to its end. -/
  | completed (index : Nat)

structure Entry where
  mark : Mark
  world : World

def Due.ofMark : Mark → Due
  | .asked (.command c args _) => .ofCommand c args
  | .event e => .ofEvent e.layers e.what
  | _ => .nothing

/-- What a world becomes up to a mark. -/
def Mark.Follows (due : Due) (w : World) (mark : Mark) (v : World) : Prop :=
  match mark with
  | .event e => ∃ u, due.Met w u ∧ e.what.Leaves u v
  | .paused => ∃ u, due.Met w u ∧ v = u.settle
  | .ended => due.Met w v
  | .asked _ => due = .nothing ∧ v = w
  | .woken => due = .nothing ∧ ∃ now ≥ w.now, v = w.setNow now
  | .begun => due = .nothing ∧ v = { w with starting := [] }
  | .joined => due = .nothing ∧ v = { w with repetitions := .empty }
  | .shutDown => due = .nothing ∧ v = w.shutDown
  | .completed index => due = .nothing ∧ v = { w with bench := w.bench.finishJob w.files index }

/-- A log tells how one world has become another one in which nothing is due. -/
inductive Chronicle : Due → World → List Entry → World → Prop
  | nil {w : World} : Chronicle .nothing w [] w
  | cons {due : Due} {w v w' : World} {mark : Mark} {log : List Entry}
      (follows : mark.Follows due w v) (rest : Chronicle (.ofMark mark) v log w') :
      Chronicle due w (⟨mark, v⟩ :: log) w'

theorem Chronicle.append {due : Due} {w v w' : World} {log more : List Entry}
    (h : Chronicle due w log v) (h' : Chronicle .nothing v more w') :
    Chronicle due w (log ++ more) w' := by
  induction h with
  | nil => exact h'
  | cons follows _ ih => exact .cons follows (ih h')

/-- A course goes on up to its next wait or to its end. -/
inductive Course.Bursts : Course World Unit → List Entry → World → Option Sleeper → Prop
  | ended {w : World} : Bursts (.done () w) [⟨.ended, w⟩] w none
  | paused {reason : Wait} {w : World} {next : World → Course World Unit} :
      Bursts (.wait reason w next) [⟨.paused, w⟩] w (some ⟨reason, next⟩)
  | note {e : Event} {w v : World} {next : Unit → Course World Unit} {log : List Entry}
      {sleeper? : Option Sleeper} (rest : Bursts (next ()) log v sleeper?) :
      Bursts (.note e w next) (⟨.event e, w⟩ :: log) v sleeper?

def Sleeper.Heeds (s : Sleeper) : Prop :=
  ∀ now, Course.Heeds [] (fun due w _ v => due.Met w v) .nothing now (s.next now)

theorem Course.Bursts.chronicle {due : Due} {w v : World} {c : Course World Unit}
    {log : List Entry} {sleeper? : Option Sleeper} (h : c.Bursts log v sleeper?)
    (heeds : Course.Heeds [] (fun due w _ v => due.Met w v) due w c) :
    Chronicle due w log v ∧ ∀ s, sleeper? = some s → s.Heeds := by
  induction h generalizing due w with
  | ended =>
    cases heeds with
    | done ended => exact ⟨.cons ended .nil, by simp⟩
  | paused =>
    cases heeds with
    | wait met settled rest =>
      refine ⟨.cons ⟨_, met, settled⟩ .nil, ?_⟩
      rintro _ ⟨⟩
      exact rest
  | note _ ih =>
    cases heeds with
    | note met leaves rest =>
      obtain ⟨log, later⟩ := ih rest
      exact ⟨.cons ⟨_, met, leaves⟩ log, later⟩

/-- What waits, in the foreground or as the repetition of an action. -/
structure Thread where
  /-- The action that is repeated, and how; nothing if it is none that is known to be repeated. -/
  task : Option (String × Repetition)
  sleeper : Sleeper

structure Scene where
  world : World
  threads : List Thread

def Repetition.woken (run : Runner) (action : String) (rounds : Nat) (r : Repetition) (w : World) :
    Course World Unit :=
  if w.shutdown then .done () w
  else
    (run ⟨action, .console, false⟩ r.frame w).bind fun (_, frame) w =>
      course run action rounds { r with frame } w.settle

def Thread.ofTask (e : Engine) (rounds : Nat) (w : World) (task : String × Repetition) : Thread :=
  ⟨some task, ⟨some (w.now + task.2.pause), true⟩, task.2.woken e.run task.1 rounds⟩

theorem Repetition.course_succ (run : Runner) (action : String) (rounds : Nat) (r : Repetition)
    (w : World) :
    course run action (rounds + 1) r w =
      .wait ⟨some (w.now + r.pause), true⟩ w (r.woken run action rounds) := rfl

/-- What goes on by what is due does so as a repetition as well. -/
theorem Repetition.heeds_woken {run : Runner} (h : Runner.Goes run) (action : String)
    (rounds : Nat) (r : Repetition) (now : World) :
    Heeds [] (fun due w _ v => due.Met w v) .nothing now (r.woken run action rounds now) := by
  induction rounds generalizing r now with
  | zero =>
    unfold woken
    split
    · exact .done (Quiet.refl now)
    · exact (h [] _ r.frame now).heeds.bind fun _ _ _ _ _ => .stuck
  | succ rounds ih =>
    unfold woken
    split
    · exact .done (Quiet.refl now)
    · refine (h [] _ r.frame now).heeds.bind ?_
      rintro due w left v ⟨met, -⟩
      exact .wait met rfl fun now => ih { r with frame := left.2 } now

theorem Errand.heeds_course {e : Engine} (h : Runner.Goes e.run) (errand : Errand) (w : World) :
    Heeds [] (fun due w _ v => due.Met w v) (.ofMark (.asked errand)) w (errand.course e w) := by
  cases errand with
  | run call control vars =>
    exact (h [] call (.fresh control vars) w).heeds.bind fun _ _ _ _ ended => .done ended.1
  | command c args sink =>
    exact (goes_perform e h [] c args sink w).bind fun _ _ _ _ met => .done met
  | pause milliseconds =>
    exact (goes_pause w milliseconds).heeds.imp fun _ _ _ _ ended => ended.1

namespace Scene

/-- One step. It does not matter in which order threads are listed: any of them may wake, at any
time. -/
inductive Steps (e : Engine) : Scene → List Entry → Scene → Prop
  | ask {w v : World} {threads : List Thread} {log : List Entry} {sleeper? : Option Sleeper}
      (errand : Errand) (went : (errand.course e w).Bursts log v sleeper?) :
      Steps e ⟨w, threads⟩ (⟨.asked errand, w⟩ :: log)
        ⟨v, threads ++ (sleeper?.map (Thread.mk none)).toList⟩
  | wake {w v : World} {threads others : List Thread} {thread : Thread} {now : Nat}
      {log : List Entry} {sleeper? : Option Sleeper} (one : threads.Perm (thread :: others))
      (later : w.now ≤ now) (went : (thread.sleeper.next (w.setNow now)).Bursts log v sleeper?) :
      Steps e ⟨w, threads⟩ (⟨.woken, w.setNow now⟩ :: log)
        ⟨v, others ++ (sleeper?.map (Thread.mk thread.task)).toList⟩
  | begin {w : World} {threads : List Thread} {rounds : Nat} (bound : e.limit = rounds + 1) :
      Steps e ⟨w, threads⟩ [⟨.begun, { w with starting := [] }⟩]
        ⟨{ w with starting := [] },
          threads ++ w.starting.map (Thread.ofTask e rounds { w with starting := [] })⟩
  | join {w : World} {threads : List Thread} (begun : w.starting = []) :
      Steps e ⟨w, threads⟩ [⟨.joined, { w with repetitions := .empty }⟩]
        ⟨{ w with repetitions := .empty }, threads.map fun t => { t with task := none }⟩
  | shutDown {w : World} {threads : List Thread} :
      Steps e ⟨w, threads⟩ [⟨.shutDown, w.shutDown⟩] ⟨w.shutDown, threads⟩
  | complete {w : World} {threads : List Thread} (index : Nat) :
      Steps e ⟨w, threads⟩
        [⟨.completed index, { w with bench := w.bench.finishJob w.files index }⟩]
        ⟨{ w with bench := w.bench.finishJob w.files index }, threads⟩

inductive Plays (e : Engine) : Scene → List Entry → Scene → Prop
  | here {s : Scene} : Plays e s [] s
  | step {s t u : Scene} {log more : List Entry} (one : Steps e s log t) (rest : Plays e t more u) :
      Plays e s (log ++ more) u

variable {e : Engine} {s t u : Scene} {log more : List Entry}

theorem Plays.trans (h : Plays e s log t) (h' : Plays e t more u) : Plays e s (log ++ more) u := by
  induction h with
  | here => exact h'
  | step one _ ih => exact List.append_assoc .. ▸ .step one (ih h')

theorem Plays.single (h : Steps e s log t) : Plays e s log t := by
  rw [← List.append_nil log]
  exact .step h .here

theorem Steps.chronicle (runs : Runner.Goes e.run) (h : Steps e s log t)
    (heeds : ∀ thread ∈ s.threads, thread.sleeper.Heeds) :
    Chronicle .nothing s.world log t.world ∧ ∀ thread ∈ t.threads, thread.sleeper.Heeds := by
  have join {threads : List Thread} {task : Option (String × Repetition)}
      {sleeper? : Option Sleeper} (old : ∀ thread ∈ threads, thread.sleeper.Heeds)
      (new : ∀ s, sleeper? = some s → s.Heeds) :
      ∀ thread ∈ threads ++ (sleeper?.map (Thread.mk task)).toList, thread.sleeper.Heeds := by
    intro thread member
    obtain member | member := List.mem_append.mp member
    · exact old thread member
    · obtain ⟨sleeper, there, rfl⟩ := Option.map_eq_some_iff.mp (Option.mem_toList.mp member)
      exact new sleeper there
  cases h with
  | ask errand went =>
    obtain ⟨log, later⟩ := went.chronicle (errand.heeds_course runs _)
    exact ⟨.cons ⟨rfl, rfl⟩ log, join heeds later⟩
  | wake one after went =>
    have known := fun thread member => heeds thread (one.mem_iff.mpr member)
    obtain ⟨log, later⟩ := went.chronicle (known _ List.mem_cons_self _)
    exact ⟨.cons ⟨rfl, _, after, rfl⟩ log,
      join (fun thread member => known thread (List.mem_cons_of_mem _ member)) later⟩
  | begin bound =>
    refine ⟨.cons ⟨rfl, rfl⟩ .nil, fun thread member => ?_⟩
    obtain member | member := List.mem_append.mp member
    · exact heeds thread member
    · obtain ⟨task, _, rfl⟩ := List.mem_map.mp member
      exact Repetition.heeds_woken runs _ _ _
  | join begun =>
    refine ⟨.cons ⟨rfl, rfl⟩ .nil, fun thread member => ?_⟩
    obtain ⟨old, there, rfl⟩ := List.mem_map.mp member
    exact heeds old there
  | shutDown => exact ⟨.cons ⟨rfl, rfl⟩ .nil, heeds⟩
  | complete index => exact ⟨.cons ⟨rfl, rfl⟩ .nil, heeds⟩

/-- The log of a play tells how its world has become what it is. -/
theorem Plays.chronicle (runs : Runner.Goes e.run) (h : Plays e s log t)
    (heeds : ∀ thread ∈ s.threads, thread.sleeper.Heeds) :
    Chronicle .nothing s.world log t.world ∧ ∀ thread ∈ t.threads, thread.sleeper.Heeds := by
  induction h with
  | here => exact ⟨.nil, heeds⟩
  | step one _ ih =>
    obtain ⟨first, kept⟩ := one.chronicle runs heeds
    obtain ⟨second, later⟩ := ih kept
    exact ⟨first.append second, later⟩

end Scene

inductive Move where
  | ask (errand : Errand)
  | shutDown
  | join
  | complete (index : Nat)

def Stage.play (e : Engine) (s : Stage) : Move → Option Stage
  | .ask errand => (s.perform e fun w => errand.course e w).map Prod.snd
  | .shutDown => some (s.change World.shutDown)
  | .join => s.join e
  | .complete index => some (s.change fun w => { w with bench := w.bench.finishJob w.files index })

def Stage.session (e : Engine) (moves : List Move) (s : Stage) : Option Stage :=
  moves.foldlM (Stage.play e) s

/-- A scene shows what goes on in the background of a stage, besides further threads. -/
def Scene.Shows (scene : Scene) (fore : List Thread) (s : Stage) : Prop :=
  scene.world = s.world ∧ ∃ threads : List Thread, threads.map Thread.sleeper = s.sleepers ∧
    scene.threads.Perm (fore ++ threads)

section Sessions

variable {e : Engine} {scene : Scene} {fore : List Thread} {s t : Stage}

theorem bursts_add {sleepers : List Sleeper} {c : Course World Unit}
    (h : Stage.add sleepers c = some t) : ∃ log sleeper?, c.Bursts log t.world sleeper? ∧
      t.sleepers = sleepers ++ sleeper?.toList := by
  induction c with
  | stuck => cases h
  | done a w =>
    cases h
    exact ⟨_, none, .ended, by simp⟩
  | note event w next ih =>
    obtain ⟨log, sleeper?, went, same⟩ := ih () h
    exact ⟨_, sleeper?, .note went, same⟩
  | wait reason w next =>
    cases h
    exact ⟨_, some _, .paused, rfl⟩

/-- Going on up to the next wait adds the thread that waits then. -/
theorem Scene.Shows.add {v : World} {threads ts : List Thread}
    {task : Option (String × Repetition)} {sleeper? : Option Sleeper}
    (same : threads.Perm (fore ++ ts)) :
    Scene.Shows ⟨v, threads ++ (sleeper?.map (Thread.mk task)).toList⟩ fore
      ⟨v, ts.map Thread.sleeper ++ sleeper?.toList⟩ := by
  refine ⟨rfl, ts ++ (sleeper?.map (Thread.mk task)).toList, ?_, ?_⟩
  · cases sleeper? <;> simp
  · rw [← List.append_assoc]
    exact same.append_right _

theorem begin_eq {rounds : Nat} (bound : e.limit = rounds + 1) (s : Stage) :
    Stage.begin e s = some ⟨{ s.world with starting := [] }, s.sleepers ++ (s.world.starting.map
      (Thread.ofTask e rounds { s.world with starting := [] })).map Thread.sleeper⟩ := by
  have fold : ∀ (tasks : List (String × Repetition)) (s : Stage),
      tasks.foldlM (fun s task =>
        Stage.add s.sleepers (task.2.course e.run task.1 e.limit s.world)) s =
      some ⟨s.world, s.sleepers ++
        (tasks.map (Thread.ofTask e rounds s.world)).map Thread.sleeper⟩ := by
    intro tasks
    induction tasks with
    | nil => simp
    | cons task rest ih =>
      intro s
      simp only [List.foldlM_cons, bound, Repetition.course_succ, Stage.add, Option.bind_eq_bind,
        Option.bind_some] at ih ⊢
      rw [ih]
      simp [Thread.ofTask]
  exact fold s.world.starting _

theorem plays_begin (h : Stage.begin e s = some t) (shows : scene.Shows fore s) :
    ∃ log scene', scene.Plays e log scene' ∧ scene'.Shows fore t ∧ t.world.starting = [] := by
  obtain ⟨same, threads, sleepers, order⟩ := shows
  cases bound : e.limit with
  | zero =>
    cases starting : s.world.starting with
    | nil =>
      obtain rfl : _ = t := by simpa [Stage.begin, starting] using h
      refine ⟨[], scene, .here, ⟨?_, threads, sleepers, order⟩, rfl⟩
      rw [same, ← starting]
    | cons task rest =>
      simp [Stage.begin, starting, bound, Repetition.course, Stage.add] at h
  | succ rounds =>
    obtain rfl := Option.some.inj ((begin_eq bound s).symm.trans h)
    obtain ⟨w, ts⟩ := scene
    subst same
    refine ⟨_, _, .single (.begin bound), ⟨rfl, threads ++ s.world.starting.map
      (Thread.ofTask e rounds { s.world with starting := [] }), ?_, ?_⟩, rfl⟩
    · simp [sleepers]
    · rw [← List.append_assoc]
      exact order.append_right _

/-- What sleeps in a stage is found in a scene. -/
theorem Scene.Shows.next? {moment? : Option Nat} {moment : Nat} {sleeper : Sleeper}
    {others : List Sleeper} (shows : scene.Shows fore s)
    (h : s.next? moment? = some (moment, sleeper, others)) : ∃ thread ts,
      thread.sleeper = sleeper ∧ ts.map Thread.sleeper = others ∧
      scene.threads.Perm (thread :: (fore ++ ts)) := by
  have split : ∀ (sleepers : List Sleeper) (others : List Sleeper),
      Stage.earliest? s.world sleepers = some (moment, sleeper, others) →
      ∃ before after, sleepers = before ++ sleeper :: after ∧ others = before ++ after := by
    intro sleepers
    induction sleepers with
    | nil => simp [Stage.earliest?]
    | cons first rest ih =>
      intro others found
      unfold Stage.earliest? at found
      split at found
      · obtain ⟨⟨m, s, left⟩, later, same⟩ := Option.map_eq_some_iff.mp found
        obtain ⟨rfl, rfl, rfl⟩ : m = moment ∧ s = sleeper ∧ first :: left = others := by
          simpa using same
        obtain ⟨before, after, rfl, rfl⟩ := ih left later
        exact ⟨first :: before, after, rfl, rfl⟩
      · obtain ⟨-, rfl, rfl⟩ : _ ∧ first = sleeper ∧ rest = others := by simpa using found
        exact ⟨[], rest, rfl, rfl⟩
      · rename_i m s left _ later
        split at found
        · obtain ⟨-, rfl, rfl⟩ : _ ∧ first = sleeper ∧ rest = others := by simpa using found
          exact ⟨[], rest, rfl, rfl⟩
        · obtain ⟨rfl, rfl, rfl⟩ : m = moment ∧ s = sleeper ∧ first :: left = others := by
            simpa using found
          obtain ⟨before, after, rfl, rfl⟩ := ih left later
          exact ⟨first :: before, after, rfl, rfl⟩
  obtain ⟨-, threads, sleepers, order⟩ := shows
  obtain ⟨found, -⟩ := Option.filter_eq_some_iff.mp h
  obtain ⟨before, after, all, rfl⟩ := split _ _ found
  obtain ⟨tb, rest, rfl, rfl, later⟩ := List.map_eq_append_iff.mp (sleepers.trans all)
  obtain ⟨thread, ta, rfl, rfl, rfl⟩ := List.map_eq_cons_iff.mp later
  refine ⟨thread, tb ++ ta, rfl, by simp, order.trans ?_⟩
  rw [← List.append_assoc, ← List.append_assoc]
  exact List.perm_middle

theorem plays_wake {moment : Nat} {thread : Thread} {ts : List Thread}
    (h : Stage.wake e s.world moment thread.sleeper (ts.map Thread.sleeper) = some t)
    (same : scene.world = s.world) (order : scene.threads.Perm (thread :: (fore ++ ts))) :
    ∃ log scene', scene.Plays e log scene' ∧ scene'.Shows fore t ∧ t.world.starting = [] := by
  obtain ⟨middle, added, begun⟩ := Option.bind_eq_some_iff.mp h
  obtain ⟨log, sleeper?, went, sleepers⟩ := bursts_add added
  obtain ⟨w, threads⟩ := scene
  subst same
  have one := Scene.Steps.wake (e := e) order (Nat.le_max_left s.world.now moment) went
  obtain ⟨v, rest⟩ := middle
  obtain rfl : rest = _ := sleepers
  obtain ⟨more, scene', later, shows, none⟩ :=
    plays_begin begun (Scene.Shows.add (List.Perm.refl (fore ++ ts)))
  exact ⟨_, scene', .step one later, shows, none⟩

/-- While something waits in the foreground, it is one more thread. -/
theorem plays_pass {reason : Wait} {limit : Nat} (h : Stage.pass e reason limit s = some t)
    (shows : scene.Shows fore s) :
    ∃ log scene' s' moment, scene.Plays e log scene' ∧ scene'.Shows fore s' ∧
      t = { s' with world := s'.world.setNow (max s'.world.now moment) } := by
  induction limit generalizing scene s with
  | zero => cases h
  | succ limit ih =>
    unfold Stage.pass at h
    split at h
    · rename_i moment sleeper others next
      obtain ⟨thread, ts, rfl, rfl, order⟩ := shows.next? next
      split at h
      · cases h
      · rename_i middle woken
        obtain ⟨log, scene₁, first, shown, _⟩ := plays_wake woken shows.1 order
        obtain ⟨more, scene', s', moment, second, shows', last⟩ := ih h shown
        exact ⟨_, scene', s', moment, first.trans second, shows', last⟩
    · rename_i moment _ _
      cases h
      exact ⟨[], scene, s, moment, .here, shows, rfl⟩
    · cases h

/-- What goes on in the foreground goes on in a scene. -/
theorem plays_follow {α : Type} {sleepers : List Sleeper} {c : Course World α} {a : α}
    (h : Stage.follow e sleepers c = some (a, t)) : ∃ log v sleeper?,
      (c.map fun _ => ()).Bursts log v sleeper? ∧
      ∀ scene : Scene, scene.Shows (sleeper?.map (Thread.mk none)).toList ⟨v, sleepers⟩ →
        ∃ more scene', scene.Plays e more scene' ∧ scene'.Shows [] t ∧ t.world.starting = [] := by
  induction c generalizing sleepers with
  | stuck => cases h
  | done b w =>
    obtain ⟨t', begun, same⟩ := Option.map_eq_some_iff.mp h
    obtain ⟨rfl, rfl⟩ := Prod.mk.inj same
    exact ⟨_, w, none, .ended, fun scene shows => plays_begin begun shows⟩
  | note event w next ih =>
    obtain ⟨log, v, sleeper?, went, later⟩ := ih () h
    exact ⟨_, v, sleeper?, .note went, later⟩
  | wait reason w next ih =>
    unfold Stage.follow at h
    split at h
    · cases h
    · rename_i middle waited
      obtain ⟨begun, began, passed⟩ := Option.bind_eq_some_iff.mp waited
      refine ⟨_, w, some _, .paused, fun scene shows => ?_⟩
      obtain ⟨log₁, scene₁, first, shown, _⟩ := plays_begin began shows
      obtain ⟨log₂, ⟨w₂, threads⟩, s', moment, second, ⟨same, ts, sleeping, order⟩, rfl⟩ :=
        plays_pass passed shown
      obtain ⟨log, v, sleeper?, went, later⟩ := ih _ h
      subst same
      have one := Scene.Steps.wake (e := e) (order : threads.Perm (_ :: ts))
        (Nat.le_max_left _ moment) went
      obtain ⟨more, scene', last, shows', none⟩ := later
        ⟨v, ts ++ (sleeper?.map (Thread.mk none)).toList⟩
        ⟨rfl, ts, sleeping, List.perm_append_comm⟩
      exact ⟨_, scene', first.trans (second.trans (.step one last)), shows', none⟩

theorem plays_drain {limit : Nat} (h : Stage.drain e limit s = some t) (shows : scene.Shows [] s)
    (none : s.world.starting = []) :
    ∃ log scene', scene.Plays e log scene' ∧ scene'.Shows [] t ∧ t.world.starting = [] := by
  induction limit generalizing scene s with
  | zero => cases h
  | succ limit ih =>
    unfold Stage.drain at h
    split at h
    · split at h
      · cases h
        exact ⟨[], scene, .here, shows, none⟩
      · cases h
    · rename_i moment sleeper others next
      obtain ⟨thread, ts, rfl, rfl, order⟩ := shows.next? next
      split at h
      · cases h
      · rename_i middle woken
        obtain ⟨log, scene₁, first, shown, none₁⟩ := plays_wake woken shows.1 order
        obtain ⟨more, scene', second, shows', none'⟩ := ih h shown none₁
        exact ⟨_, scene', first.trans second, shows', none'⟩

theorem plays_move {m : Move} (h : s.play e m = some t) (shows : scene.Shows [] s)
    (begun : s.world.starting = []) :
    ∃ log scene', scene.Plays e log scene' ∧ scene'.Shows [] t ∧ t.world.starting = [] := by
  obtain ⟨w, threads⟩ := scene
  obtain ⟨rfl, ts, sleepers, order⟩ := shows
  cases m with
  | ask errand =>
    obtain ⟨⟨a, t'⟩, performed, rfl⟩ := Option.map_eq_some_iff.mp h
    obtain ⟨log, v, sleeper?, went, later⟩ := plays_follow performed
    rw [show (errand.course e s.world).map (fun _ => ()) = errand.course e s.world from
      Course.map_id _] at went
    obtain ⟨more, scene', rest, shows, begun⟩ := later
      ⟨v, threads ++ (sleeper?.map (Thread.mk none)).toList⟩
      ⟨rfl, ts, sleepers, (order.append_right _).trans List.perm_append_comm⟩
    exact ⟨_, scene', .step (.ask errand went) rest, shows, begun⟩
  | shutDown =>
    cases h
    exact ⟨_, _, .single .shutDown, ⟨rfl, ts, sleepers, order⟩, begun⟩
  | complete index =>
    cases h
    exact ⟨_, _, .single (.complete index), ⟨rfl, ts, sleepers, order⟩, begun⟩
  | join =>
    have shows : Scene.Shows ⟨{ s.world with repetitions := .empty },
        threads.map fun t => { t with task := none }⟩ []
        { s with world := { s.world with repetitions := .empty } } :=
      ⟨rfl, ts.map fun t => { t with task := none }, by rw [← sleepers, List.map_map]; rfl,
        order.map _⟩
    obtain ⟨log, scene', rest, shows', begun'⟩ := plays_drain h shows begun
    exact ⟨_, scene', .step (.join begun) rest, shows', begun'⟩

/-- A session that comes to its end is a play. -/
theorem session_plays {moves : List Move} (h : Stage.session e moves s = some t)
    (shows : scene.Shows [] s) (begun : s.world.starting = []) :
    ∃ log scene', scene.Plays e log scene' ∧ scene'.Shows [] t ∧ t.world.starting = [] := by
  induction moves generalizing scene s with
  | nil =>
    cases h
    exact ⟨[], scene, .here, shows, begun⟩
  | cons m moves ih =>
    obtain ⟨middle, first, later⟩ := Option.bind_eq_some_iff.mp h
    obtain ⟨log, scene₁, plays, shown, begun₁⟩ := plays_move first shows begun
    obtain ⟨more, scene', plays', shows', begun'⟩ := ih later shown begun₁
    exact ⟨_, scene', plays.trans plays', shows', begun'⟩

end Sessions

end Runbook
