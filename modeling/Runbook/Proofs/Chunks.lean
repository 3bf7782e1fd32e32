import Runbook.Placeholder
import Runbook.Proofs.Span
/-! Filling placeholders piece by piece. A text is cut before each opening bracket; every piece
is filled on its own, and the pieces are put together again. -/
namespace Runbook.Placeholder

open Runbook.Span

/-- A name begins with an ASCII letter or an underscore; digits, dots and hyphens may follow as
well. -/
def IsName : List Char → Prop
  | [] => False
  | c :: rest => (c.isAlpha = true ∨ c = '_') ∧
    ∀ d ∈ rest, d.isAlphanum = true ∨ d ∈ ['_', '.', '-']

theorem isNameStart_iff {c : Char} : isNameStart c = true ↔ c.isAlpha = true ∨ c = '_' := by
  simp [isNameStart]

theorem isNamePart_iff {c : Char} :
    isNamePart c = true ↔ c.isAlphanum = true ∨ c ∈ ['_', '.', '-'] := by
  simp [isNamePart, or_assoc]

/-- What makes a placeholder out of an opening bracket before it, and what follows that. -/
inductive Opens : List Char → Hole → List Char → Prop
  | plain {name rest : List Char} (named : IsName name) :
      Opens (name ++ '>' :: rest) ⟨name, []⟩ rest
  | withDefault {name default rest : List Char} (named : IsName name)
      (inside : ∀ c ∈ default, c ≠ '<' ∧ c ≠ '>') :
      Opens (name ++ ':' :: (default ++ '>' :: rest)) ⟨name, default⟩ rest

theorem isNamePart_of_isNameStart {c : Char} (h : isNameStart c = true) :
    isNamePart c = true := by
  simp only [isNameStart, isNamePart, Char.isAlphanum, Bool.or_eq_true] at h ⊢
  rcases h with h | h <;> simp [h]

theorem IsName.part {name : List Char} (named : IsName name) :
    ∀ c ∈ name, isNamePart c = true := by
  cases name with
  | nil => simp
  | cons c rest =>
    intro d member
    rcases List.mem_cons.mp member with rfl | member
    · exact isNamePart_of_isNameStart (isNameStart_iff.mpr named.1)
    · exact isNamePart_iff.mpr (named.2 d member)

theorem isName_takeWhile {c : Char} {rest : List Char} (h : isNameStart c = true) :
    IsName ((c :: rest).takeWhile isNamePart) := by
  rw [List.takeWhile_cons_of_pos (isNamePart_of_isNameStart h)]
  exact ⟨isNameStart_iff.mp h, fun _ member => isNamePart_iff.mp (List.mem_takeWhile_imp member)⟩

theorem default?_eq_some_iff {s found rest : List Char} :
    default? s = some (found, rest) ↔
      s = found ++ '>' :: rest ∧ ∀ c ∈ found, c ≠ '<' ∧ c ≠ '>' := by
  constructor
  · intro h
    unfold default? at h
    split at h
    · rename_i after dropped
      obtain ⟨rfl, rfl⟩ := Prod.mk.inj (Option.some.inj h)
      refine ⟨?_, fun c member => by simpa using List.mem_takeWhile_imp member⟩
      rw [← dropped, List.takeWhile_append_dropWhile]
    · simp at h
  · rintro ⟨rfl, inside⟩
    have inside : ∀ c ∈ found, (decide (c ≠ '<') && decide (c ≠ '>')) = true := by
      simpa using inside
    have stop : Stops (fun c => decide (c ≠ '<') && decide (c ≠ '>')) ('>' :: rest) := by simp
    simp only [default?, takeWhile_append inside stop, dropWhile_append inside stop]

/-- The reader of placeholders finds what there is to be found. -/
theorem read?_eq_some_iff {s rest : List Char} {hole : Hole} :
    read? s = some (hole, rest) ↔ Opens s hole rest := by
  constructor
  · intro h
    cases s with
    | nil => simp [read?] at h
    | cons c more =>
      by_cases start : isNameStart c = true
      · have named : IsName ((c :: more).takeWhile isNamePart) := isName_takeWhile start
        simp only [read?, start, if_true] at h
        split at h
        · rename_i after dropped
          obtain ⟨rfl, rfl⟩ := Prod.mk.inj (Option.some.inj h)
          have opens : Opens (_ ++ '>' :: after) _ after := .plain named
          rwa [← dropped, List.takeWhile_append_dropWhile] at opens
        · rename_i after dropped
          obtain ⟨⟨found, left⟩, read, last⟩ := Option.map_eq_some_iff.mp h
          obtain ⟨rfl, rfl⟩ := Prod.mk.inj last
          obtain ⟨rfl, inside⟩ := default?_eq_some_iff.mp read
          have opens : Opens (_ ++ ':' :: (_ ++ '>' :: left)) _ left := .withDefault named inside
          rwa [← dropped, List.takeWhile_append_dropWhile] at opens
        · simp at h
      · simp [read?, start] at h
  · intro h
    -- Neither the closing bracket nor the colon is part of a name.
    have closing : Stops isNamePart ('>' :: rest) := stops_cons.mpr (by decide)
    cases h with
    | @plain name _ named =>
      cases name with
      | nil => exact named.elim
      | cons c more =>
        have taken := takeWhile_append named.part closing
        have dropped := dropWhile_append named.part closing
        rw [List.cons_append] at taken dropped ⊢
        simp only [read?, isNameStart_iff.mpr named.1, if_true, taken, dropped]
    | @withDefault name default _ named inside =>
      cases name with
      | nil => exact named.elim
      | cons c more =>
        have colon : Stops isNamePart (':' :: (default ++ '>' :: rest)) :=
          stops_cons.mpr (by decide)
        have taken := takeWhile_append named.part colon
        have dropped := dropWhile_append named.part colon
        have read : default? (default ++ '>' :: rest) = some (default, rest) :=
          default?_eq_some_iff.mpr ⟨rfl, inside⟩
        rw [List.cons_append] at taken dropped ⊢
        simp only [read?, isNameStart_iff.mpr named.1, if_true, taken, dropped, read,
          Option.map_some]

theorem not_opens_iff {s : List Char} :
    read? s = none ↔ ∀ hole rest, ¬ Opens s hole rest := by
  simp only [Option.eq_none_iff_forall_ne_some, ne_eq, Prod.forall, read?_eq_some_iff]

theorem IsName.bracket_free {name : List Char} (named : IsName name) : '<' ∉ name := by
  intro member
  have part := named.part _ member
  revert part
  decide

/-- A placeholder is a text without a further opening bracket, whatever follows it. -/
theorem Opens.front {s rest : List Char} {hole : Hole} (h : Opens s hole rest) :
    ∃ front, s = front ++ rest ∧ '<' ∉ front ∧ ∀ other, Opens (front ++ other) hole other := by
  cases h with
  | @plain name _ named =>
    refine ⟨name ++ ['>'], by simp, by simp [named.bracket_free], fun other => ?_⟩
    simpa using Opens.plain named
  | @withDefault name default _ named inside =>
    have free : '<' ∉ default := fun member => (inside _ member).1 rfl
    refine ⟨name ++ ':' :: (default ++ ['>']), by simp, by simp [named.bracket_free, free],
      fun other => ?_⟩
    simpa using Opens.withDefault named inside

section Fill

variable {vars : Variables} {s rest : List Char}

@[simp] theorem fill_nil : fill vars [] = [] := by rw [fill]

theorem fill_plain {c : Char} (h : c ≠ '<') : fill vars (c :: rest) = c :: fill vars rest := by
  rw [fill, if_neg h]

theorem fill_hole {hole : Hole} (h : Opens s hole rest) :
    fill vars ('<' :: s) = hole.fill vars ++ fill vars rest := by
  have read := read?_eq_some_iff.mpr h
  rw [fill, if_pos rfl]
  split
  · rename_i found
    obtain ⟨rfl, rfl⟩ := Prod.mk.inj (Option.some.inj (found.symm.trans read))
    rfl
  · rename_i found
    simp [read] at found

theorem fill_bracket (h : ∀ hole rest, ¬ Opens s hole rest) :
    fill vars ('<' :: s) = '<' :: fill vars s := by
  have read := not_opens_iff.mpr h
  rw [fill, if_pos rfl]
  split
  · rename_i found
    simp [read] at found
  · rfl

theorem fill_append (free : '<' ∉ s) : fill vars (s ++ rest) = s ++ fill vars rest := by
  induction s with
  | nil => rfl
  | cons c s ih =>
    simp only [List.mem_cons, not_or] at free
    rw [List.cons_append, fill_plain (Ne.symm free.1), ih free.2, List.cons_append]

theorem substitute_eq (vars : Variables) (text : String) :
    substitute vars text = String.ofList (fill vars text.toList) := by
  rw [substitute]
  split
  · rfl
  · rename_i bracket
    have filled := @fill_append vars text.toList [] (by simpa using bracket)
    rw [fill_nil, List.append_nil] at filled
    rw [filled, String.ofList_toList]

theorem fill_of_defined {hole : Hole} {value : String}
    (h : vars.get? (String.ofList hole.name) = some value) : hole.fill vars = value.toList := by
  simp only [Hole.fill, h]

theorem fill_of_undefined {hole : Hole} (h : vars.get? (String.ofList hole.name) = none) :
    hole.fill vars = hole.default := by
  simp only [Hole.fill, h]

end Fill

inductive Stands (vars : Variables) (hole : Hole) : List Char → Prop
  | value {value : String} (defined : vars.get? (String.ofList hole.name) = some value) :
      Stands vars hole value.toList
  | default (undefined : vars.get? (String.ofList hole.name) = none) :
      Stands vars hole hole.default

theorem stands_fill (vars : Variables) (hole : Hole) : Stands vars hole (hole.fill vars) := by
  cases found : vars.get? (String.ofList hole.name) with
  | none => exact fill_of_undefined found ▸ .default found
  | some value => exact fill_of_defined found ▸ .value found

/-- What becomes of a text when placeholders that do not overlap are replaced, each of them the
leftmost one that is left. -/
inductive Replaced (vars : Variables) : List Char → List Char → Prop
  | last {s : List Char}
      (closed : ∀ before after hole rest, s = before ++ '<' :: after → ¬ Opens after hole rest) :
      Replaced vars s s
  | next {before after rest value out : List Char} {hole : Hole}
      (first : ∀ earlier later hole rest, before ++ '<' :: after = earlier ++ '<' :: later →
        earlier.length < before.length → ¬ Opens later hole rest)
      (here : Opens after hole rest) (stands : Stands vars hole value)
      (more : Replaced vars rest out) :
      Replaced vars (before ++ '<' :: after) (before ++ (value ++ out))

/-- A character in front changes nothing when no placeholder begins with it. -/
theorem Replaced.cons {vars : Variables} {c : Char} {s out : List Char}
    (closed : c = '<' → ∀ hole rest, ¬ Opens s hole rest) (h : Replaced vars s out) :
    Replaced vars (c :: s) (c :: out) := by
  cases h with
  | last none =>
    refine .last fun before after hole rest joined => ?_
    cases before with
    | nil =>
      obtain ⟨bracket, rfl⟩ := List.cons.inj joined
      exact closed bracket hole rest
    | cons d before => exact none before after hole rest (List.cons.inj joined).2
  | @next before after rest value out hole first here stands more =>
    refine @Replaced.next vars (c :: before) _ _ _ _ _
      (fun earlier later hole rest joined shorter => ?_) here stands more
    cases earlier with
    | nil =>
      obtain ⟨bracket, rfl⟩ := List.cons.inj joined
      exact closed bracket hole rest
    | cons d earlier =>
      exact first earlier later hole rest (List.cons.inj joined).2 (by simpa using shorter)

/-- One pass from left to right replaces the leftmost placeholders. -/
theorem replaced_fill (vars : Variables) (s : List Char) : Replaced vars s (fill vars s) := by
  fun_induction fill vars s with
  | case1 => exact .last (by simp)
  | case2 rest hole after read ih =>
    exact @Replaced.next vars [] _ _ _ _ _ (by simp) (read?_eq_some_iff.mp read)
      (stands_fill vars hole) ih
  | case3 rest read ih => exact ih.cons fun _ => not_opens_iff.mp read
  | case4 c rest other ih => exact ih.cons fun bracket => absurd bracket other

/-- A text as what is before the first opening bracket and what follows each of these. -/
structure Cut (text head : List Char) (chunks : List (List Char)) : Prop where
  joined : text = head ++ chunks.flatMap ('<' :: ·)
  head_free : '<' ∉ head
  chunk_free : ∀ chunk ∈ chunks, '<' ∉ chunk

theorem exists_cut (text : List Char) : ∃ head chunks, Cut text head chunks := by
  induction text with
  | nil => exact ⟨[], [], rfl, by simp, by simp⟩
  | cons c text ih =>
    obtain ⟨head, chunks, cut⟩ := ih
    by_cases bracket : c = '<'
    · refine ⟨[], head :: chunks, by simp [bracket, cut.joined], by simp, ?_⟩
      rintro chunk (_ | ⟨_, member⟩)
      · exact cut.head_free
      · exact cut.chunk_free chunk member
    · exact ⟨c :: head, chunks, by simp [cut.joined], by simp [Ne.symm bracket, cut.head_free],
        cut.chunk_free⟩

def expand (vars : Variables) (chunk : List Char) : List Char :=
  match read? chunk with
  | some (hole, rest) => hole.fill vars ++ rest
  | none => '<' :: chunk

/-- No placeholder goes beyond the next opening bracket. -/
theorem Opens.within {chunk more rest : List Char} {hole : Hole}
    (next : ∀ c, more.head? = some c → c = '<') (h : Opens (chunk ++ more) hole rest) :
    ∃ left, rest = left ++ more ∧ Opens chunk hole left := by
  obtain ⟨front, joined, free, anywhere⟩ := h.front
  rcases List.append_eq_append_iff.mp joined with ⟨spill, hfront, hmore⟩ | ⟨left, hchunk, hrest⟩
  · cases spill with
    | nil =>
      have whole := anywhere []
      simp only [List.append_nil] at hfront whole
      exact ⟨[], by simpa using hmore.symm, hfront ▸ whole⟩
    | cons c spill =>
      have bracket : c = '<' := next c (by simp [hmore])
      exact absurd (by simp [hfront, bracket]) free
  · exact ⟨left, hrest, hchunk ▸ anywhere left⟩

theorem Opens.append {chunk rest : List Char} {hole : Hole} (h : Opens chunk hole rest)
    (more : List Char) : Opens (chunk ++ more) hole (rest ++ more) := by
  obtain ⟨front, rfl, _, anywhere⟩ := h.front
  simpa using anywhere (rest ++ more)

theorem fill_chunk (vars : Variables) {chunk more : List Char} (free : '<' ∉ chunk)
    (next : ∀ c, more.head? = some c → c = '<') :
    fill vars ('<' :: (chunk ++ more)) = expand vars chunk ++ fill vars more := by
  cases read : read? chunk with
  | some found =>
    obtain ⟨hole, rest⟩ := found
    have opens := read?_eq_some_iff.mp read
    have rest_free : '<' ∉ rest := by
      obtain ⟨front, rfl, _⟩ := opens.front
      exact fun member => free (by simp [member])
    rw [fill_hole (opens.append more), fill_append rest_free]
    simp [expand, read]
  | none =>
    have closed : ∀ hole rest, ¬ Opens (chunk ++ more) hole rest := by
      intro hole rest opens
      obtain ⟨left, _, opens⟩ := opens.within next
      exact not_opens_iff.mp read hole left opens
    rw [fill_bracket closed, fill_append free]
    simp [expand, read]

theorem fill_chunks (vars : Variables) {chunks : List (List Char)}
    (free : ∀ chunk ∈ chunks, '<' ∉ chunk) :
    fill vars (chunks.flatMap ('<' :: ·)) = chunks.flatMap (expand vars) := by
  induction chunks with
  | nil => simp
  | cons chunk chunks ih =>
    have next : ∀ c, (chunks.flatMap ('<' :: ·)).head? = some c → c = '<' := by
      cases chunks <;> simp_all
    rw [List.flatMap_cons, List.cons_append, fill_chunk vars (free chunk (by simp)) next,
      ih fun chunk member => free chunk (by simp [member]), List.flatMap_cons]

theorem expand_opens {vars : Variables} {chunk rest : List Char} {hole : Hole}
    (h : Opens chunk hole rest) : expand vars chunk = hole.fill vars ++ rest := by
  simp only [expand, read?_eq_some_iff.mpr h]

/-- Substitution replaces the leftmost placeholders that do not overlap, and fills each piece of a
text on its own. A piece that begins with a placeholder becomes the value of the variable where that
is defined, as it is, and else the default, or nothing where there is none; what follows the
placeholder stays. Any other piece stays as it is. -/
theorem substitute_chunks (vars : Variables) :
    ∃ f : List Char → List Char,
      (∀ chunk hole rest value, Opens chunk hole rest →
        vars.get? (String.ofList hole.name) = some value → f chunk = value.toList ++ rest) ∧
      (∀ name default rest, IsName name → (∀ c ∈ default, c ≠ '<' ∧ c ≠ '>') →
        vars.get? (String.ofList name) = none →
          f (name ++ ':' :: (default ++ '>' :: rest)) = default ++ rest) ∧
      (∀ name rest, IsName name → vars.get? (String.ofList name) = none →
        f (name ++ '>' :: rest) = rest) ∧
      (∀ chunk, (∀ hole rest, ¬ Opens chunk hole rest) → f chunk = '<' :: chunk) ∧
      ∀ text : String, Replaced vars text.toList (substitute vars text).toList ∧
        (∃ head chunks, Cut text.toList head chunks) ∧
        ∀ head chunks, Cut text.toList head chunks →
          (substitute vars text).toList = head ++ chunks.flatMap f := by
  refine ⟨expand vars, fun chunk hole rest value opens defined => ?_,
    fun name default rest named inside undefined => ?_, fun name rest named undefined => ?_,
    fun chunk closed => ?_, fun text => ⟨?_, exists_cut _, fun head chunks cut => ?_⟩⟩
  · rw [expand_opens opens, fill_of_defined defined]
  · have opens : Opens (name ++ ':' :: (default ++ '>' :: rest)) ⟨name, default⟩ rest :=
      .withDefault named inside
    rw [expand_opens opens, fill_of_undefined undefined]
  · have opens : Opens (name ++ '>' :: rest) ⟨name, []⟩ rest := .plain named
    rw [expand_opens opens, fill_of_undefined undefined, List.nil_append]
  · simp only [expand, not_opens_iff.mpr closed]
  · rw [substitute_eq, String.toList_ofList]
    exact replaced_fill vars text.toList
  · rw [substitute_eq, String.toList_ofList, cut.joined, fill_append cut.head_free,
      fill_chunks vars cut.chunk_free]

/-- A value that looks like a placeholder is not filled again. -/
example : substitute (.ofList [("x", "<y>"), ("y", "1")]) "<<x><y:2>, <z:3>, <z>" =
    "<<y>1, 3, " := by decide +kernel

end Runbook.Placeholder
