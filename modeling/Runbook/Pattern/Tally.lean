/-! The room that a pattern takes. It is laid out as states, numbered in the order in which they
are laid out; where a state leads on takes room beside it. -/
namespace Runbook.Pattern

/-- The way a pattern is read. -/
inductive Direction where
  | forwards
  | backwards
  deriving DecidableEq, Repr

/-- The states so far, and the room beside them. -/
structure Tally where
  states : Nat
  beside : Nat
  deriving DecidableEq, Repr

namespace Tally

/-- The room of a state. -/
def stateSize : Nat := 32

/-- The room of one of several ranges of bytes that a state goes on with. -/
def arrowSize : Nat := 8

/-- The room of one of several states that a state leads to. -/
def branchSize : Nat := 4

def none : Tally := ⟨0, 0⟩

/-- So many states that each have one way on, or end the pattern. -/
def plain (states : Nat) : Tally := ⟨states, 0⟩

/-- A state that leads to others. -/
def fork (branches : Nat) : Tally := ⟨1, branches * branchSize⟩

/-- A state that goes on with ranges of bytes. -/
def switch (arrows : Nat) : Tally := ⟨1, arrows * arrowSize⟩

instance : Add Tally := ⟨fun s t => ⟨s.states + t.states, s.beside + t.beside⟩⟩

def room (t : Tally) : Nat := t.states * stateSize + t.beside

/-- How much room a pattern may take. -/
def limit : Nat := 10485760

def isTooLarge (t : Tally) : Bool := limit < t.room

end Tally

end Runbook.Pattern
