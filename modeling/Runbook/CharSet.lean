/-! Sets of characters. A set is kept as its edges, the numbers of characters at which membership
changes, so that two sets are combined in one sweep over the edges of both. -/
namespace Runbook

structure CharSet where
  edges : List Nat
  ascending : edges.Pairwise (· < ·)
  deriving DecidableEq

namespace CharSet

/-- Whether a number is behind an odd number of edges. -/
def inside (n : Nat) : List Nat → Bool
  | [] => false
  | e :: rest => if n < e then false else !inside n rest

/-- What goes with the numbers that are in a set, where these ascend. -/
def pickFrom (member : Bool) : List Nat → List (Nat × Nat) → List Nat
  | _, [] => []
  | [], entries => if member then entries.map Prod.snd else []
  | e :: edges, (n, other) :: rest =>
    if n < e then
      let picked := pickFrom member (e :: edges) rest
      if member then other :: picked else picked
    else pickFrom (!member) edges ((n, other) :: rest)
termination_by edges entries => edges.length + entries.length

def pick (s : CharSet) (entries : List (Nat × Nat)) : List Nat := pickFrom false s.edges entries

def contains (s : CharSet) (c : Char) : Bool := inside c.toNat s.edges

def empty : CharSet := ⟨[], .nil⟩

/-- The characters from the number `first` up to `last`. -/
def ofRange (first last : Nat) : CharSet :=
  if h : first ≤ last then ⟨[first, last + 1], List.pairwise_pair.mpr (Nat.lt_succ_of_le h)⟩ else empty

def singleton (c : Char) : CharSet := ofRange c.toNat c.toNat

def lastNumber : Nat := 0x10FFFF

def full : CharSet := ofRange 0 lastNumber

/-- The edge of a combined set at `n`, if it has one there. -/
def edge? (before after : Bool) (n : Nat) (rest : List Nat) : List Nat :=
  if before = after then rest else n :: rest

/-- The edges of the set that `op` makes of two sets, from a place on at which the two have the
members `p` and `q`. -/
def sweep (op : Bool → Bool → Bool) (p q : Bool) : List Nat → List Nat → List Nat
  | [], [] => []
  | x :: xs, [] => edge? (op p q) (op (!p) q) x (sweep op (!p) q xs [])
  | [], y :: ys => edge? (op p q) (op p (!q)) y (sweep op p (!q) [] ys)
  | x :: xs, y :: ys =>
    if x < y then edge? (op p q) (op (!p) q) x (sweep op (!p) q xs (y :: ys))
    else if y < x then edge? (op p q) (op p (!q)) y (sweep op p (!q) (x :: xs) ys)
    else edge? (op p q) (op (!p) (!q)) x (sweep op (!p) (!q) xs ys)
  termination_by xs ys => xs.length + ys.length

theorem ascending_edge? {before after : Bool} {n : Nat} {rest : List Nat}
    (h : rest.Pairwise (· < ·)) (above : ∀ m ∈ rest, n < m) :
    (edge? before after n rest).Pairwise (· < ·) := by
  unfold edge?
  split
  · exact h
  · exact List.pairwise_cons.2 ⟨above, h⟩

theorem lt_of_mem_edge? {before after : Bool} {n b : Nat} {rest : List Nat}
    (hn : b < n) (h : ∀ m ∈ rest, b < m) : ∀ m ∈ edge? before after n rest, b < m := by
  intro m hm
  unfold edge? at hm
  split at hm
  · exact h m hm
  · rcases List.mem_cons.1 hm with rfl | hm
    · exact hn
    · exact h m hm

theorem lt_of_mem_sweep {op : Bool → Bool → Bool} {b : Nat} (p q : Bool) (xs ys : List Nat)
    (hx : ∀ m ∈ xs, b < m) (hy : ∀ m ∈ ys, b < m) : ∀ m ∈ sweep op p q xs ys, b < m := by
  fun_induction sweep op p q xs ys with
  | case1 => exact hx
  | case2 p q x xs ih =>
    exact lt_of_mem_edge? (hx x (by simp)) (ih (fun m hm => hx m (by simp [hm])) hy)
  | case3 p q y ys ih =>
    exact lt_of_mem_edge? (hy y (by simp)) (ih hx fun m hm => hy m (by simp [hm]))
  | case4 p q x xs y ys _ ih =>
    exact lt_of_mem_edge? (hx x (by simp)) (ih (fun m hm => hx m (by simp [hm])) hy)
  | case5 p q x xs y ys _ _ ih =>
    exact lt_of_mem_edge? (hy y (by simp)) (ih hx fun m hm => hy m (by simp [hm]))
  | case6 p q x xs y ys _ _ ih =>
    exact lt_of_mem_edge? (hx x (by simp))
      (ih (fun m hm => hx m (by simp [hm])) fun m hm => hy m (by simp [hm]))

theorem ascending_sweep {op : Bool → Bool → Bool} (p q : Bool) (xs ys : List Nat)
    (hx : xs.Pairwise (· < ·)) (hy : ys.Pairwise (· < ·)) :
    (sweep op p q xs ys).Pairwise (· < ·) := by
  fun_induction sweep op p q xs ys with
  | case1 => exact .nil
  | case2 p q x xs ih =>
    have hx := List.pairwise_cons.1 hx
    exact ascending_edge? (ih hx.2 .nil) (lt_of_mem_sweep _ _ _ _ hx.1 (by simp))
  | case3 p q y ys ih =>
    have hy := List.pairwise_cons.1 hy
    exact ascending_edge? (ih .nil hy.2) (lt_of_mem_sweep _ _ _ _ (by simp) hy.1)
  | case4 p q x xs y ys h ih =>
    have hx := List.pairwise_cons.1 hx
    refine ascending_edge? (ih hx.2 hy) (lt_of_mem_sweep _ _ _ _ hx.1 ?_)
    have := List.pairwise_cons.1 hy
    grind
  | case5 p q x xs y ys h h' ih =>
    have hy := List.pairwise_cons.1 hy
    refine ascending_edge? (ih hx hy.2) (lt_of_mem_sweep _ _ _ _ ?_ hy.1)
    have := List.pairwise_cons.1 hx
    grind
  | case6 p q x xs y ys h h' ih =>
    have hx := List.pairwise_cons.1 hx
    have hy := List.pairwise_cons.1 hy
    refine ascending_edge? (ih hx.2 hy.2) (lt_of_mem_sweep _ _ _ _ hx.1 ?_)
    grind

/-- The characters that `op` accepts, by whether they are in the two sets. -/
def combine (op : Bool → Bool → Bool) (s t : CharSet) : CharSet :=
  ⟨sweep op false false s.edges t.edges, ascending_sweep _ _ _ _ s.ascending t.ascending⟩

def union : CharSet → CharSet → CharSet := combine or
def inter : CharSet → CharSet → CharSet := combine and

/-- The numbers between those of characters that belong to none. A run of characters can go on
across them. -/
def gap : CharSet := ofRange 0xD800 0xDFFF

/-- A set without the gap, unless it has the characters on both sides of it. -/
def settle (s : CharSet) : CharSet :=
  if inside 0xD7FF s.edges && inside 0xE000 s.edges then s
  else combine (fun p q => p && !q) s gap

def diff (s t : CharSet) : CharSet := (combine (fun p q => p && !q) s t).settle
def symmDiff (s t : CharSet) : CharSet := (combine bne s t).settle

/-- What is between the runs of a set. Between two runs on both sides of the gap are the
characters next to it, although the runs have them as well. -/
def compl (s : CharSet) : CharSet :=
  let others := combine (fun p q => p && !q) full s
  if inside 0xD7FF s.edges && !inside 0xD800 s.edges && inside 0xE000 s.edges then
    others.union (ofRange 0xD7FF 0xE000)
  else others.settle

instance : Union CharSet := ⟨union⟩
instance : Inter CharSet := ⟨inter⟩
instance : SDiff CharSet := ⟨diff⟩

/-- Joins each set in an odd place with the next one. -/
def joinPairs : List CharSet → List CharSet
  | s :: t :: rest => (s ∪ t) :: joinPairs rest
  | sets => sets

theorem length_joinPairs_le (sets : List CharSet) : (joinPairs sets).length ≤ sets.length := by
  fun_induction joinPairs sets <;> simp
  omega

/-- All characters of some sets. Small sets are joined first. -/
def unions : List CharSet → CharSet
  | [] => empty
  | [s] => s
  | s :: t :: rest => unions ((s ∪ t) :: joinPairs rest)
termination_by sets => sets.length
decreasing_by
  have := length_joinPairs_le rest
  simp
  omega

/-- The characters of the numbers in the ranges, each given by its first and its last one. -/
def ofRanges (ranges : List (Nat × Nat)) : CharSet := unions (ranges.map fun r => ofRange r.1 r.2)

/-- The first and the last number of each maximal run that ends. -/
def pairs : List Nat → List (Nat × Nat)
  | first :: next :: rest => (first, next - 1) :: pairs rest
  | _ => []

def ranges (s : CharSet) : List (Nat × Nat) := pairs s.edges

/-- Whether all characters are ASCII characters. -/
def isAscii (s : CharSet) : Bool := s.edges.all (· ≤ 0x80)

theorem inside_of_lt {n : Nat} {l : List Nat} (h : ∀ m ∈ l, n < m) : inside n l = false := by
  cases l with
  | nil => rfl
  | cons e rest => simp [inside, h e (by simp)]

theorem inside_edge? {n e : Nat} {before after : Bool} {rest : List Nat}
    (above : ∀ m ∈ rest, e < m) :
    (inside n (edge? before after e rest) ^^ before) =
      if n < e then before else (inside n rest ^^ after) := by
  unfold edge?
  split <;> rename_i h
  · subst h
    split <;> rename_i lt
    · rw [inside_of_lt fun m hm => Nat.lt_trans lt (above m hm)]; simp
    · rfl
  · by_cases lt : n < e
    · simp [inside, lt]
    · cases before <;> cases after <;> simp_all [inside]

theorem inside_nil {n : Nat} : inside n [] = false := rfl

theorem inside_cons {n e : Nat} {rest : List Nat} :
    inside n (e :: rest) = if n < e then false else !inside n rest := rfl

theorem inside_sweep (op : Bool → Bool → Bool) (n : Nat) (p q : Bool) (xs ys : List Nat)
    (hx : xs.Pairwise (· < ·)) (hy : ys.Pairwise (· < ·)) :
    (inside n (sweep op p q xs ys) ^^ op p q) =
      op (inside n xs ^^ p) (inside n ys ^^ q) := by
  fun_induction sweep op p q xs ys with
  | case1 => simp [inside]
  | case2 p q x xs ih =>
    have hx := List.pairwise_cons.1 hx
    rw [inside_edge? (lt_of_mem_sweep _ _ _ _ hx.1 (by simp)), inside_cons]
    have ih := ih hx.2 .nil
    split <;> simp_all [inside_nil]
  | case3 p q y ys ih =>
    have hy := List.pairwise_cons.1 hy
    rw [inside_edge? (lt_of_mem_sweep _ _ _ _ (by simp) hy.1), inside_cons]
    have ih := ih .nil hy.2
    split <;> simp_all [inside_nil]
  | case4 p q x xs y ys h ih =>
    have hx := List.pairwise_cons.1 hx
    have hy' := List.pairwise_cons.1 hy
    have above : ∀ m ∈ y :: ys, x < m := by grind
    rw [inside_edge? (lt_of_mem_sweep _ _ _ _ hx.1 above), inside_cons]
    have ih := ih hx.2 hy
    split <;> rename_i lt
    · rw [@inside_of_lt _ (y :: ys) fun m hm => Nat.lt_trans lt (above m hm)]; simp
    · simp_all
  | case5 p q x xs y ys h h' ih =>
    have hx' := List.pairwise_cons.1 hx
    have hy := List.pairwise_cons.1 hy
    have above : ∀ m ∈ x :: xs, y < m := by grind
    rw [inside_edge? (lt_of_mem_sweep _ _ _ _ above hy.1)]
    have ih := ih hx hy.2
    rw [@inside_cons _ _ ys]
    split <;> rename_i lt
    · rw [@inside_of_lt _ (x :: xs) fun m hm => Nat.lt_trans lt (above m hm)]; simp
    · simp_all
  | case6 p q x xs y ys h h' ih =>
    obtain rfl : x = y := by omega
    have hx := List.pairwise_cons.1 hx
    have hy := List.pairwise_cons.1 hy
    rw [inside_edge? (lt_of_mem_sweep _ _ _ _ hx.1 hy.1), inside_cons, inside_cons]
    have ih := ih hx.2 hy.2
    split <;> simp_all

/-- Combining sets combines membership, where nothing is made of what is in neither set. -/
theorem contains_combine {op : Bool → Bool → Bool} (h : op false false = false) (s t : CharSet)
    (c : Char) : (combine op s t).contains c = op (s.contains c) (t.contains c) := by
  have := inside_sweep op c.toNat false false s.edges t.edges s.ascending t.ascending
  simpa [h, contains, combine] using this

@[simp] theorem contains_union (s t : CharSet) (c : Char) :
    (s ∪ t).contains c = (s.contains c || t.contains c) := contains_combine rfl s t c

theorem contains_empty (c : Char) : empty.contains c = false := rfl

theorem any_joinPairs (sets : List CharSet) (c : Char) :
    (joinPairs sets).any (·.contains c) = sets.any (·.contains c) := by
  fun_induction joinPairs sets <;> simp_all [Bool.or_assoc]

theorem contains_unions (sets : List CharSet) (c : Char) :
    (unions sets).contains c = sets.any (·.contains c) := by
  fun_induction unions sets <;> simp_all [any_joinPairs, contains_empty, Bool.or_assoc]

@[simp] theorem contains_inter (s t : CharSet) (c : Char) :
    (s ∩ t).contains c = (s.contains c && t.contains c) := contains_combine rfl s t c

/-- No character has a number in the gap. -/
theorem contains_gap (c : Char) : gap.contains c = false := by
  have h : c.toNat < 0xD800 ∨ 0xDFFF < c.toNat ∧ c.toNat < 0x110000 := c.valid
  simp only [contains, gap, ofRange, Nat.reduceLeDiff, ↓reduceDIte, inside]
  split
  · rfl
  · split
    · omega
    · rfl

@[simp] theorem contains_settle (s : CharSet) (c : Char) :
    s.settle.contains c = s.contains c := by
  unfold settle
  split
  · rfl
  · simp [contains_combine, contains_gap]

@[simp] theorem contains_diff (s t : CharSet) (c : Char) :
    (s \ t).contains c = (s.contains c && !t.contains c) :=
  (contains_settle _ c).trans (contains_combine rfl s t c)

@[simp] theorem contains_symmDiff (s t : CharSet) (c : Char) :
    (s.symmDiff t).contains c = (s.contains c != t.contains c) :=
  (contains_settle _ c).trans (contains_combine rfl s t c)

end CharSet

end Runbook
