import Runbook.Pattern.Encoding
import Runbook.Pattern.Slots
import Runbook.Pattern.Tally
/-! The states of a set. Each box of encoded characters is a chain of states, one for each byte.
Forwards, states that go on alike are shared, as long as the memory of them lasts; backwards,
those are shared that lead to the same state with the same bytes. -/
namespace Runbook.Pattern.SetLayout
open Encoding

/-- What is laid out, and the states that can be shared. -/
structure Work where
  tally : Tally
  slots : Slots

/-- The number of the state for a key: one that is remembered, or the given new one. -/
def Work.state (w : Work) (key : List Nat) (new : Tally) : Nat × Work :=
  match w.slots.find? key with
  | some n => (n, w)
  | none => (w.tally.states, ⟨w.tally + new, w.slots.put key w.tally.states⟩)

/-! ## Forwards -/

/-- A state that is not laid out yet: its arrows with their goals, the last one first, and the
range of an arrow whose goal is not known. -/
structure Draft where
  arrows : List (ByteRange × Nat)
  open? : Option ByteRange

namespace Draft

/-- The arrow without a goal gets one. -/
def settle (d : Draft) (goal : Nat) : List (ByteRange × Nat) :=
  match d.open? with
  | some r => (r, goal) :: d.arrows
  | none => d.arrows

def key (arrows : List (ByteRange × Nat)) : List Nat :=
  arrows.reverse.flatMap fun (r, goal) => [r.1, r.2, goal]

/-- Lays out drafts that lead one to the next, the last of them to the goal. -/
def close (goal : Nat) : List Draft → Work → Nat × Work
  | [], w => (goal, w)
  | d :: deeper, w =>
    let (next, w) := close goal deeper w
    let arrows := d.settle next
    w.state (key arrows) (.switch arrows.length)

/-- Adds a box to drafts: what it has in common with the box before it stays open, and the rest
of that one is laid out. -/
def add (goal : Nat) : Box → List Draft → Work → List Draft × Work
  | r :: rest, d :: deeper, w =>
    if d.open? = some r then
      let (deeper, w) := add goal rest deeper w
      (d :: deeper, w)
    else
      let (next, w) := close goal deeper w
      (⟨d.settle next, some r⟩ :: rest.map fun s => ⟨[], some s⟩, w)
  | _, drafts, w => (drafts, w)

end Draft

def forwards (boxes : List Box) (t : Tally) : Tally :=
  let goal := t.states
  let (drafts, w) := boxes.foldl (fun (drafts, w) box => Draft.add goal box drafts w)
    ([⟨[], none⟩], ⟨t + .plain 1, .empty 10000⟩)
  (Draft.close goal drafts w).2.tally

/-! ## Backwards -/

/-- The state that a box leads to from a state, the first byte being the last one read. -/
def chain : Box → Nat → Work → Nat × Work
  | [], goal, w => (goal, w)
  | r :: rest, goal, w =>
    let (next, w) := w.state [goal, r.1, r.2] (.plain 1)
    chain rest next w

def backwards (boxes : List Box) (t : Tally) : Tally :=
  let goal := t.states + 1
  (boxes.foldl (fun w box => (chain box goal w).2)
    ⟨t + .fork boxes.length + .plain 1, .empty 1000⟩).tally

/-- Lays out the states of a set that is not of ASCII characters alone. -/
def lay : Direction → List Box → Tally → Tally
  | .forwards => forwards
  | .backwards => backwards

end Runbook.Pattern.SetLayout
