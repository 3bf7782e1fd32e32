import Std.Data.HashMap
/-! A memory with a fixed number of slots. A key is a row of numbers, which mixed together give
its slot. What a slot holds is lost when another key is put there. -/
namespace Runbook.Pattern

structure Slots where
  count : Nat
  held : Std.HashMap Nat (List Nat × Nat)

namespace Slots

def empty (count : Nat) : Slots := ⟨count, ∅⟩

/-- Mixes numbers into one that spreads over all words of 64 bits. -/
def mix (word : UInt64) : List Nat → UInt64
  | [] => word
  | n :: rest => mix ((word ^^^ n.toUInt64) * 1099511628211) rest

def slot (s : Slots) (key : List Nat) : Nat := (mix 14695981039346656037 key).toNat % s.count

def find? (s : Slots) (key : List Nat) : Option Nat :=
  match s.held[s.slot key]? with
  | some (k, value) => if k = key then some value else none
  | none => none

def put (s : Slots) (key : List Nat) (value : Nat) : Slots :=
  { s with held := s.held.insert (s.slot key) (key, value) }

@[simp] theorem find?_empty (count : Nat) (key : List Nat) : (empty count).find? key = none := by
  simp [find?, empty]

@[simp] theorem slot_put (s : Slots) (key other : List Nat) (value : Nat) :
    (s.put key value).slot other = s.slot other := rfl

theorem find?_put_same (s : Slots) (key : List Nat) (value : Nat) :
    (s.put key value).find? key = some value := by
  simp [find?, put, slot]

/-- What another slot holds is still there. -/
theorem find?_put_other (s : Slots) {key other : List Nat} (value : Nat)
    (h : s.slot key ≠ s.slot other) : (s.put key value).find? other = s.find? other := by
  unfold find?
  rw [slot_put]
  simp [put, Std.HashMap.getElem?_insert, h]

/-- A slot holds one key at a time. -/
theorem find?_put_of_slot_eq (s : Slots) {key other : List Nat} (value : Nat)
    (h : s.slot key = s.slot other) (ne : key ≠ other) :
    (s.put key value).find? other = none := by
  unfold find?
  rw [slot_put]
  simp [put, h, ne]

end Slots

end Runbook.Pattern
