import Runbook.Run.Engine
/-! How time passes. While a run waits, what waits in the background goes on when its time has
come: the earliest first and, at the same moment, what has waited longest. -/
namespace Runbook

/-- A course in the background that waits. -/
structure Sleeper where
  reason : Wait
  next : World → Course World Unit

/-- When a wait ends in a world as it is, if it ends. -/
def Wait.ending? (reason : Wait) (w : World) : Option Nat :=
  if reason.heedsShutdown && w.shutdown then some w.now else reason.moment

/-- A world with what is going on in the background. -/
structure Stage where
  world : World
  /-- What waits, in the order in which it began to. -/
  sleepers : List Sleeper

namespace Stage

/-- A stage with nothing in the background. -/
def ofWorld (w : World) : Stage := ⟨w, []⟩

/-- Goes on with a course in the background up to where it waits. -/
def add (sleepers : List Sleeper) : Course World Unit → Option Stage
  | .stuck => none
  | .done _ w => some ⟨w, sleepers⟩
  | .note _ _ next => add sleepers (next ())
  | .wait reason w next => some ⟨w, sleepers ++ [⟨reason, next⟩]⟩

/-- Begins the repetitions that have been asked for. -/
def begin (e : Engine) (s : Stage) : Option Stage :=
  s.world.starting.foldlM (fun s (action, r) =>
      add s.sleepers (r.course e.run action e.limit s.world))
    { s with world := { s.world with starting := [] } }

/-- The first of the sleepers that wake first, with the moment and with all others. -/
def earliest? (w : World) : List Sleeper → Option (Nat × Sleeper × List Sleeper)
  | [] => none
  | sleeper :: rest =>
    match sleeper.reason.ending? w, earliest? w rest with
    | none, other => other.map fun (m, s, rest) => (m, s, sleeper :: rest)
    | some moment, none => some (moment, sleeper, rest)
    | some moment, some (m, s, others) =>
      if moment ≤ m then some (moment, sleeper, rest) else some (m, s, sleeper :: others)

/-- What wakes next, if that is not after a moment. -/
def next? (s : Stage) (moment? : Option Nat) : Option (Nat × Sleeper × List Sleeper) :=
  (earliest? s.world s.sleepers).filter fun e => moment?.all (e.1 ≤ ·)

/-- Wakes a sleeper at a moment. -/
def wake (e : Engine) (w : World) (moment : Nat) (sleeper : Sleeper) (others : List Sleeper) :
    Option Stage :=
  (add others (sleeper.next (w.setNow (max w.now moment)))).bind (begin e)

/-- Lets time pass until a wait in the foreground ends. -/
def pass (e : Engine) (reason : Wait) : Nat → Stage → Option Stage
  | 0, _ => none
  | limit + 1, s =>
    match s.next? (reason.ending? s.world), reason.ending? s.world with
    | some (moment, sleeper, others), _ =>
      match wake e s.world moment sleeper others with
      | none => none
      | some s => pass e reason limit s
    | none, some moment => some { s with world := s.world.setNow (max s.world.now moment) }
    | none, none => none

/-- Follows a course in the foreground to its end. There is no result where it does not come to
its end. -/
def follow {α : Type} (e : Engine) (sleepers : List Sleeper) : Course World α → Option (α × Stage)
  | .stuck => none
  | .done a w => (begin e ⟨w, sleepers⟩).map fun s => (a, s)
  | .note _ _ next => follow e sleepers (next ())
  | .wait reason w next =>
    match (begin e ⟨w, sleepers⟩).bind (pass e reason e.limit) with
    | none => none
    | some s => follow e s.sleepers (next s.world)

/-- Runs something in the foreground. -/
def perform {α : Type} (e : Engine) (run : World → Course World α) (s : Stage) :
    Option (α × Stage) :=
  follow e s.sleepers (run s.world)

/-- Lets time pass until nothing waits any more. -/
def drain (e : Engine) : Nat → Stage → Option Stage
  | 0, _ => none
  | limit + 1, s =>
    match s.next? none with
    | none => if s.sleepers.isEmpty then some s else none
    | some (moment, sleeper, others) =>
      match wake e s.world moment sleeper others with
      | none => none
      | some s => drain e limit s

/-- Forgets the repeated actions, and waits until they have come to their end. -/
def join (e : Engine) (s : Stage) : Option Stage :=
  drain e e.limit { s with world := { s.world with repetitions := .empty } }

/-- Changes the world at once. -/
def change (s : Stage) (f : World → World) : Stage := { s with world := f s.world }

end Stage

end Runbook
