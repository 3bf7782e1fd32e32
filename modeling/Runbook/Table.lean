/-! Finite maps from names to values, in order of the first definition of each name.
`set` keeps the place of a name that is there already. -/
namespace Runbook

structure Table (α : Type) where
  entries : List (String × α)
  /-- Each name is there once. -/
  distinct : (entries.map Prod.fst).Nodup

namespace Table

variable {α : Type}

def empty : Table α := ⟨[], .nil⟩

instance : Inhabited (Table α) := ⟨empty⟩

def find (name : String) : List (String × α) → Option α
  | [] => none
  | (key, value) :: rest => if key = name then some value else find name rest

def put (name : String) (value : α) : List (String × α) → List (String × α)
  | [] => [(name, value)]
  | (key, old) :: rest =>
    if key = name then (key, value) :: rest else (key, old) :: put name value rest

theorem keys_put (name : String) (value : α) (l : List (String × α)) :
    (put name value l).map Prod.fst =
      if name ∈ l.map Prod.fst then l.map Prod.fst else l.map Prod.fst ++ [name] := by
  induction l with
  | nil => simp [put]
  | cons e rest ih =>
    obtain ⟨key, old⟩ := e
    by_cases h : key = name
    · simp [put, h]
    · have h' : ¬ name = key := fun e => h e.symm
      simp only [put, h, ↓reduceIte, List.map_cons, ih, List.mem_cons, h', false_or]
      split <;> simp

theorem nodup_put (name : String) (value : α) {l : List (String × α)}
    (h : (l.map Prod.fst).Nodup) : ((put name value l).map Prod.fst).Nodup := by
  rw [keys_put]
  split
  · exact h
  · rename_i hn
    rw [List.nodup_append]
    refine ⟨h, by simp, ?_⟩
    intro a ha b hb
    simp only [List.mem_singleton] at hb
    intro e; exact hn (by rw [← hb, ← e]; exact ha)

def get? (t : Table α) (name : String) : Option α := find name t.entries

def set (t : Table α) (name : String) (value : α) : Table α :=
  ⟨put name value t.entries, nodup_put name value t.distinct⟩

def erase (t : Table α) (name : String) : Table α :=
  ⟨t.entries.filter (·.1 ≠ name),
    (List.filter_sublist.map Prod.fst).nodup t.distinct⟩

def contains (t : Table α) (name : String) : Bool := (t.get? name).isSome

def keys (t : Table α) : List String := t.entries.map Prod.fst

def size (t : Table α) : Nat := t.entries.length

def isEmpty (t : Table α) : Bool := t.entries.isEmpty

/-- Sets the pairs one after the other, so that the last value of a name stays. -/
def setAll (t : Table α) (pairs : List (String × α)) : Table α :=
  pairs.foldl (fun t e => t.set e.1 e.2) t

def ofList (pairs : List (String × α)) : Table α := empty.setAll pairs

/-- The entries by increasing name. -/
def sorted (t : Table α) : List (String × α) := t.entries.mergeSort (fun a b => a.1 ≤ b.1)

@[ext] theorem ext {s t : Table α} (h : s.entries = t.entries) : s = t := by
  cases s; cases t; simp_all

theorem find_put (name other : String) (value : α) (l : List (String × α)) :
    find other (put name value l) = if name = other then some value else find other l := by
  induction l with
  | nil => simp [put, find]
  | cons e rest ih =>
    obtain ⟨key, old⟩ := e
    by_cases hk : key = name <;> by_cases ho : key = other <;> grind [put, find]

@[simp] theorem get?_set_same (t : Table α) (name : String) (value : α) :
    (t.set name value).get? name = some value := by
  simp [get?, set, find_put]

@[simp] theorem get?_set_other (t : Table α) {name other : String} (value : α)
    (h : other ≠ name) : (t.set name value).get? other = t.get? other := by
  simp [get?, set, find_put, Ne.symm h]

@[simp] theorem get?_empty (name : String) : (empty : Table α).get? name = none := rfl

theorem find_filter (name other : String) (l : List (String × α)) :
    find other (l.filter (·.1 ≠ name)) = if other = name then none else find other l := by
  induction l with
  | nil => simp [find]
  | cons e rest ih =>
    obtain ⟨key, old⟩ := e
    by_cases hk : key = name <;> by_cases ho : key = other <;> grind [find]

@[simp] theorem get?_erase_same (t : Table α) (name : String) :
    (t.erase name).get? name = none := by
  simp only [get?, erase, find_filter, ↓reduceIte]

@[simp] theorem get?_erase_other (t : Table α) {name other : String} (h : other ≠ name) :
    (t.erase name).get? other = t.get? other := by
  simp only [get?, erase, find_filter, h, ↓reduceIte]

theorem keys_set (t : Table α) (name : String) (value : α) :
    (t.set name value).keys = if name ∈ t.keys then t.keys else t.keys ++ [name] :=
  keys_put name value t.entries

end Table

end Runbook
