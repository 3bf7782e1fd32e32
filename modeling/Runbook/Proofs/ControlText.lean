import Mathlib.Data.List.Induction
import Runbook.ControlFile
import Runbook.Proofs.Span
/-! Control files as they are written. An entry has its name and its value escaped and may be
indented; remarks and blank lines may stand anywhere. Reading gives back the entries. -/
namespace Runbook

namespace Table

variable {α : Type}

theorem ofList_concat (pairs : List (String × α)) (e : String × α) :
    ofList (pairs ++ [e]) = (ofList pairs).set e.1 e.2 := by
  simp [ofList, setAll]

/-- Each name is a key in the place of its first pair. -/
theorem keys_ofList (pairs : List (String × α)) :
    (ofList pairs).keys = (pairs.map Prod.fst).eraseDups := by
  induction pairs using List.reverseRecOn with
  | nil => rfl
  | append_singleton pairs e ih =>
    rw [ofList_concat, keys_set, ih, List.map_append, List.eraseDups_append]
    by_cases member : e.1 ∈ pairs.map Prod.fst
    · simp_all [List.removeAll]
    · simp_all [List.removeAll, List.eraseDups_cons]

/-- The last pair of a name gives its value. -/
theorem get?_ofList (pairs : List (String × α)) (name : String) :
    (ofList pairs).get? name = (pairs.reverse.find? (·.1 = name)).map Prod.snd := by
  induction pairs using List.reverseRecOn with
  | nil => rfl
  | append_singleton pairs e ih =>
    rw [ofList_concat, List.reverse_append, List.reverse_singleton, List.singleton_append]
    by_cases same : e.1 = name
    · subst same
      simp
    · simp [get?_set_other _ _ (Ne.symm same), ih, same]

end Table

namespace ControlFile

open Runbook.Span

section Escape

def escapeChar (c : Char) : List Char :=
  if c = '\n' then ['\\', 'n']
  else if c = '\r' then ['\\', 'r']
  else if c = '\t' then ['\\', 't']
  else if Text.isBlank c ∨ c ∈ ['\\', '=', ':', '#', '!'] then ['\\', c]
  else [c]

def escape (s : List Char) : List Char := s.flatMap escapeChar

@[simp] theorem escape_nil : escape [] = [] := rfl

@[simp] theorem escape_cons (c : Char) (s : List Char) :
    escape (c :: s) = escapeChar c ++ escape s := rfl

structure Plain (c : Char) : Prop where
  notBackslash : c ≠ '\\'
  notEnd : endsName c = false
  notMark : (c == '#' || c == '!') = false

theorem Plain.notBlank {c : Char} (h : Plain c) : Text.isBlank c = false := by
  have notEnd := h.notEnd
  simp only [endsName, Bool.or_eq_false_iff] at notEnd
  exact notEnd.2

/-- A character is written as a pair that stands for it, or as itself. -/
theorem escapeChar_cases (c : Char) :
    (∃ d, d ≠ '\r' ∧ escapeChar c = ['\\', d] ∧
      ∀ rest, unescape ('\\' :: d :: rest) = c :: unescape rest) ∨
      escapeChar c = [c] ∧ Plain c := by
  by_cases feed : c = '\n'
  · exact .inl ⟨'n', by decide, by simp [escapeChar, feed], fun rest => by simp [unescape, feed]⟩
  by_cases ret : c = '\r'
  · exact .inl ⟨'r', by decide, by simp [escapeChar, ret], fun rest => by simp [unescape, ret]⟩
  by_cases tab : c = '\t'
  · exact .inl ⟨'t', by decide, by simp [escapeChar, tab], fun rest => by simp [unescape, tab]⟩
  by_cases guarded : Text.isBlank c ∨ c ∈ ['\\', '=', ':', '#', '!']
  · refine .inl ⟨c, ret, by simp only [escapeChar, feed, ret, tab, guarded, if_true, if_false],
      fun rest => ?_⟩
    -- The letters that mean a control character are not guarded.
    have letter : c ≠ 'n' ∧ c ≠ 't' ∧ c ≠ 'r' := by
      refine ⟨?_, ?_, ?_⟩ <;> rintro rfl <;> revert guarded <;> decide
    simp [unescape, letter]
  · refine .inr ⟨by simp only [escapeChar, feed, ret, tab, guarded, if_false], ?_⟩
    simp only [List.mem_cons, List.not_mem_nil, or_false, not_or, Bool.not_eq_true] at guarded
    exact ⟨guarded.2.1, by simp [endsName, guarded], by simp [guarded]⟩

theorem unescape_plain {c : Char} {rest : List Char} (h : c ≠ '\\') :
    unescape (c :: rest) = c :: unescape rest :=
  unescape.eq_4 _ _ (by simp [h]) (by simp [h])

theorem unescape_escape (s : List Char) : unescape (escape s) = s := by
  induction s with
  | nil => rfl
  | cons c s ih =>
    obtain ⟨d, _, written, meant⟩ | ⟨written, plain⟩ := escapeChar_cases c
    · rw [escape_cons, written, List.cons_append, List.cons_append, List.nil_append, meant, ih]
    · rw [escape_cons, written, List.singleton_append, unescape_plain plain.notBackslash, ih]

/-- The first character of what is written guards itself or is plain. -/
theorem head_escape {s : List Char} {c : Char} (h : (escape s).head? = some c) :
    c = '\\' ∨ Plain c := by
  cases s with
  | nil => simp at h
  | cons d s =>
    obtain ⟨e, _, written, _⟩ | ⟨written, plain⟩ := escapeChar_cases d
    · exact .inl (by simpa [written] using h.symm)
    · obtain rfl : d = c := by simpa [written] using h
      exact .inr plain

theorem escape_ne_nil {s : List Char} (h : s ≠ []) : escape s ≠ [] := by
  cases s with
  | nil => exact absurd rfl h
  | cons c s =>
    obtain ⟨_, _, written, _⟩ | ⟨written, _⟩ := escapeChar_cases c <;> simp [written]

/-- What is written has neither line feeds nor carriage returns. -/
theorem not_mem_escape {s : List Char} {c : Char} (h : c = '\n' ∨ c = '\r') : c ∉ escape s := by
  induction s with
  | nil => simp
  | cons d s ih =>
    have here : c ∉ escapeChar d := by
      unfold escapeChar
      split_ifs <;> rcases h with rfl | rfl <;> simp_all [Ne.symm]
    simp [here, ih]

end Escape

section Pairs

/-- Pairs that a backslash begins, and other characters by themselves. -/
inductive Whole : List Char → Prop
  | nil : Whole []
  | pair {c : Char} {rest : List Char} (more : Whole rest) : Whole ('\\' :: c :: rest)
  | plain {c : Char} {rest : List Char} (h : c ≠ '\\') (more : Whole rest) : Whole (c :: rest)

theorem Whole.append {s t : List Char} (hs : Whole s) (ht : Whole t) : Whole (s ++ t) := by
  induction hs with
  | nil => exact ht
  | pair _ ih => exact .pair ih
  | plain h _ ih => exact .plain h ih

theorem whole_of_forall {s : List Char} (h : ∀ c ∈ s, c ≠ '\\') : Whole s := by
  induction s with
  | nil => exact .nil
  | cons c s ih => exact .plain (h c (by simp)) (ih fun d member => h d (by simp [member]))

theorem whole_escape (s : List Char) : Whole (escape s) := by
  induction s with
  | nil => exact .nil
  | cons c s ih =>
    obtain ⟨d, _, written, _⟩ | ⟨written, plain⟩ := escapeChar_cases c
    · rw [escape_cons, written]
      exact .pair ih
    · rw [escape_cons, written]
      exact .plain plain.notBackslash ih

theorem continues_plain {c : Char} {rest : List Char} (h : c ≠ '\\') :
    continues (c :: rest) = continues rest := by
  simp only [continues, List.reverse_cons, List.takeWhile_append]
  split <;> simp_all

theorem continues_pair (c : Char) (rest : List Char) :
    continues ('\\' :: c :: rest) = continues rest := by
  simp only [continues, List.reverse_cons, List.takeWhile_append, List.append_assoc]
  by_cases back : c = '\\'
  · split <;> simp_all
  · split <;> simp_all

/-- A line goes on in the next one unless it is made up of pairs and other characters. -/
theorem continues_eq_false_of_whole {s : List Char} (h : Whole s) : continues s = false := by
  induction h with
  | nil => rfl
  | pair _ ih => rw [continues_pair, ih]
  | plain h _ ih => rw [continues_plain h, ih]

end Pairs

section Entry

/-- What divides a name and a value: blanks with at most one sign among them. -/
inductive Gap : List Char → Prop
  | blanks {s : List Char} (blank : ∀ c ∈ s, Text.isBlank c = true) : Gap s
  | sign {before after : List Char} {sign : Char} (known : sign = '=' ∨ sign = ':')
      (blank : ∀ c ∈ before, Text.isBlank c = true)
      (blank' : ∀ c ∈ after, Text.isBlank c = true) : Gap (before ++ sign :: after)

theorem endsName_of_mem_gap {gap : List Char} (h : Gap gap) :
    ∀ c ∈ gap, endsName c = true := by
  intro c member
  cases h with
  | blanks blank => simp [endsName, blank c member]
  | sign known blank blank' =>
    simp only [List.mem_append, List.mem_cons] at member
    rcases member with member | rfl | member
    · simp [endsName, blank c member]
    · rcases known with rfl | rfl <;> decide
    · simp [endsName, blank' c member]

theorem whole_gap {gap : List Char} (h : Gap gap) : Whole gap := by
  refine whole_of_forall fun c member => ?_
  rintro rfl
  exact absurd (endsName_of_mem_gap h _ member) (by decide)

theorem stops_escape (s : List Char) : Stops Text.isBlank (escape s) := by
  intro c head
  rcases head_escape head with rfl | plain
  · decide
  · exact plain.notBlank

theorem splitName_plain {c : Char} {rest : List Char} (h : c ≠ '\\') :
    splitName (c :: rest) =
      if endsName c then ([], c :: rest) else (c :: (splitName rest).1, (splitName rest).2) :=
  splitName.eq_4 _ _ (by simp [h]) (by simp [h])

theorem splitName_escape (name rest : List Char) :
    splitName (escape name ++ rest) =
      (escape name ++ (splitName rest).1, (splitName rest).2) := by
  induction name with
  | nil => rfl
  | cons c name ih =>
    obtain ⟨d, _, written, _⟩ | ⟨written, plain⟩ := escapeChar_cases c
    · simp [written, splitName, ih]
    · rw [escape_cons, written, List.append_assoc, List.singleton_append,
        splitName_plain plain.notBackslash, ih]
      simp [plain.notEnd]

theorem splitName_of_endsName {s : List Char} (h : ∀ c, s.head? = some c → endsName c = true) :
    splitName s = ([], s) := by
  cases s with
  | nil => rfl
  | cons c s =>
    have ends := h c rfl
    have notBackslash : c ≠ '\\' := by
      rintro rfl
      revert ends
      decide
    rw [splitName_plain notBackslash, if_pos ends]

/-- A written value does not begin with a sign that could divide it from its name. -/
theorem escape_ne_sign_cons {sign : Char} (known : sign = '=' ∨ sign = ':') (s rest : List Char) :
    escape s ≠ sign :: rest := by
  intro written
  rcases head_escape (s := s) (c := sign) (by rw [written]; rfl) with rfl | plain
  · simp at known
  · exact absurd plain.notEnd (by rcases known with rfl | rfl <;> decide)

theorem dropSeparator_gap {gap : List Char} (h : Gap gap) (value : List Char) :
    dropSeparator (gap ++ escape value) = escape value := by
  have stop := stops_escape value
  cases h with
  | blanks blank =>
    rw [dropSeparator, Text.dropBlanks, dropWhile_append blank stop]
    split
    · rename_i rest head
      exact absurd head (escape_ne_sign_cons (.inl rfl) value rest)
    · rename_i rest head
      exact absurd head (escape_ne_sign_cons (.inr rfl) value rest)
    · rfl
  | @sign before after sign known blank blank' =>
    have mark : Stops Text.isBlank (sign :: (after ++ escape value)) :=
      stops_cons.mpr (by rcases known with rfl | rfl <;> decide)
    rw [List.append_assoc, List.cons_append, dropSeparator, Text.dropBlanks,
      dropWhile_append blank mark]
    rcases known with rfl | rfl <;> exact dropWhile_append blank' stop

/-- A line that is written as an entry is read as that. -/
theorem entry?_written {name gap value : List Char} (named : name ≠ []) (divides : Gap gap)
    (apart : gap = [] → value = []) :
    entry? (escape name ++ (gap ++ escape value)) =
      some (String.ofList name, String.ofList value) := by
  have ends : ∀ c, (gap ++ escape value).head? = some c → endsName c = true := by
    intro c head
    cases gap with
    | nil => simp [apart rfl] at head
    | cons d gap =>
      obtain rfl : d = c := by simpa using head
      exact endsName_of_mem_gap divides _ (by simp)
  have whole : splitName (escape name ++ (gap ++ escape value)) =
      (escape name, gap ++ escape value) := by
    rw [splitName_escape, splitName_of_endsName ends, List.append_nil]
  simp only [ entry?, whole, List.isEmpty_eq_false_iff.mpr (escape_ne_nil named),
    dropSeparator_gap divides, unescape_escape]
  rfl

end Entry

section Raw

/-- What a line gives when no line before it goes on in it. -/
def Gives (raw : List Char) (e? : Option (String × String)) : Prop :=
  ∀ rest, (joinLines none (raw :: rest)).filterMap entry? =
    e?.toList ++ (joinLines none rest).filterMap entry?

theorem gives_none {raw : List Char} (h : isRemark (Text.dropBlanks raw) = true) :
    Gives raw none := by
  intro rest
  simp [joinLines, h]

theorem gives_entry {indent name gap value : List Char}
    (blank : ∀ c ∈ indent, Text.isBlank c = true) (named : name ≠ []) (divides : Gap gap)
    (apart : gap = [] → value = []) :
    Gives (indent ++ (escape name ++ (gap ++ escape value)))
      (some (String.ofList name, String.ofList value)) := by
  intro rest
  have first : ∀ c, (escape name ++ (gap ++ escape value)).head? = some c →
      c = '\\' ∨ Plain c := by
    intro c head
    refine head_escape (s := name) ?_
    rw [List.head?_append] at head
    cases written : escape name with
    | nil => exact absurd written (escape_ne_nil named)
    | cons d _ => simpa [written] using head
  have stop : Stops Text.isBlank (escape name ++ (gap ++ escape value)) := by
    intro c head
    rcases first c head with rfl | plain
    · decide
    · exact plain.notBlank
  have notRemark : isRemark (escape name ++ (gap ++ escape value)) = false := by
    cases line : escape name ++ (gap ++ escape value) with
    | nil => simp [escape_ne_nil named] at line
    | cons c _ =>
      rcases first c (by rw [line]; rfl) with rfl | plain
      · rfl
      · exact plain.notMark
  have whole : Whole (escape name ++ (gap ++ escape value)) :=
    (whole_escape name).append ((whole_gap divides).append (whole_escape value))
  simp only [joinLines, Text.dropBlanks, dropWhile_append blank stop, notRemark,
    continues_eq_false_of_whole whole, Option.isNone_none, Bool.and_false, Bool.false_eq_true,
    if_false, Option.getD_none, List.nil_append, List.filterMap_cons,
    entry?_written named divides apart, Option.toList_some, List.singleton_append]

/-- A carriage return that belongs to the ending of the line is blank space of the gap, or else
the value would have it. -/
theorem dropReturn_append {front back : List Char} (h : back ≠ []) :
    Text.dropReturn (front ++ back) = front ++ Text.dropReturn back := by
  have last : (front ++ back).getLast? = back.getLast? := by
    rw [List.getLast?_append, List.getLast?_eq_some_getLast h, Option.some_or]
  simp only [Text.dropReturn, last]
  split
  · rw [List.dropLast_append_of_ne_nil h]
  · rfl

theorem mem_of_mem_dropReturn {s : List Char} {c : Char} (h : c ∈ Text.dropReturn s) : c ∈ s := by
  unfold Text.dropReturn at h
  split at h
  · exact List.dropLast_subset s h
  · exact h

theorem Gap.dropReturn {gap : List Char} (h : Gap gap) : Gap (Text.dropReturn gap) := by
  cases h with
  | blanks blank => exact .blanks fun c member => blank c (mem_of_mem_dropReturn member)
  | @sign before after sign known blank blank' =>
    rw [dropReturn_append (by simp)]
    cases after with
    | nil =>
      have kept : Text.dropReturn [sign] = [sign] := by rcases known with rfl | rfl <;> rfl
      rw [kept]
      exact .sign known blank (by simp)
    | cons c after =>
      rw [← List.singleton_append, dropReturn_append (by simp), List.singleton_append]
      exact .sign known blank fun d member => blank' d (mem_of_mem_dropReturn member)

theorem isRemark_dropReturn {raw : List Char} (h : isRemark (Text.dropBlanks raw) = true) :
    isRemark (Text.dropBlanks (Text.dropReturn raw)) = true := by
  by_cases ret : raw.getLast? = some '\r'
  · obtain ⟨front, rfl⟩ := List.getLast?_eq_some_iff.mp ret
    have dropped : Text.dropReturn (front ++ ['\r']) = front := by simp [Text.dropReturn]
    rw [dropped]
    rw [Text.dropBlanks, List.dropWhile_append] at h
    cases rest : Text.dropBlanks front with
    | nil => rfl
    | cons c more =>
      rw [← Text.dropBlanks, rest] at h
      exact h
  · simpa [Text.dropReturn, ret] using h

end Raw

structure Spaces where
  chars : List Char
  blank : ∀ c ∈ chars, Text.isBlank c = true
  inLine : '\n' ∉ chars

inductive Separator where
  | sign (before : Spaces) (mark : Char) (known : mark = '=' ∨ mark = ':') (after : Spaces)
  | blanks (spaces : Spaces) (any : spaces.chars ≠ [])

def Separator.chars : Separator → List Char
  | .sign before mark _ after => before.chars ++ mark :: after.chars
  | .blanks spaces _ => spaces.chars

/-- A line of a control file that does not go on in the next one. -/
inductive Line where
  | entry (indent : Spaces) (name : String) (named : name ≠ "") (separator : Separator)
      (value : String)
  | remark (indent : Spaces) (mark : Char) (known : mark = '#' ∨ mark = '!') (text : List Char)
      (inLine : '\n' ∉ text)
  | blank (spaces : Spaces)

namespace Line

def chars : Line → List Char
  | entry indent name _ separator value =>
    indent.chars ++ (escape name.toList ++ (separator.chars ++ escape value.toList))
  | remark indent mark _ text _ => indent.chars ++ mark :: text
  | blank spaces => spaces.chars

def pair? : Line → Option (String × String)
  | entry _ name _ _ value => some (name, value)
  | remark .. => none
  | blank .. => none

end Line

def written : List Line → Bool → List Char
  | [], _ => []
  | [line], ended => line.chars ++ if ended then ['\n'] else []
  | line :: rest, ended => line.chars ++ '\n' :: written rest ended

section Lines

theorem Separator.gap (s : Separator) : Gap s.chars := by
  cases s with
  | sign before mark known after => exact .sign known before.blank after.blank
  | blanks spaces _ => exact .blanks spaces.blank

theorem Separator.chars_ne_nil (s : Separator) : s.chars ≠ [] := by
  cases s with
  | sign => simp [chars]
  | blanks _ any => exact any

theorem Separator.inLine (s : Separator) : '\n' ∉ s.chars := by
  cases s with
  | sign before mark known after =>
    have : '\n' ≠ mark := by rcases known with rfl | rfl <;> decide
    simp [chars, before.inLine, after.inLine, this]
  | blanks spaces _ => exact spaces.inLine

theorem Line.inLine (line : Line) : '\n' ∉ line.chars := by
  cases line with
  | entry indent name _ separator value =>
    simp [chars, indent.inLine, separator.inLine, not_mem_escape]
  | remark indent mark known text inLine =>
    have : '\n' ≠ mark := by rcases known with rfl | rfl <;> decide
    simp [chars, indent.inLine, inLine, this]
  | blank spaces => exact spaces.inLine

theorem toList_ne_nil {s : String} (h : s ≠ "") : s.toList ≠ [] := by
  simpa using h

theorem Line.isRemark_chars {line : Line} (h : line.pair? = none) :
    isRemark (Text.dropBlanks line.chars) = true := by
  cases line with
  | entry => simp [pair?] at h
  | remark indent mark known text _ =>
    have stop : Stops Text.isBlank (mark :: text) :=
      stops_cons.mpr (by rcases known with rfl | rfl <;> decide)
    rw [chars, Text.dropBlanks, dropWhile_append indent.blank stop]
    rcases known with rfl | rfl <;> rfl
  | blank spaces =>
    have all : Text.dropBlanks spaces.chars = [] := by
      simpa [Text.dropBlanks] using dropWhile_append spaces.blank stops_nil
    rw [chars, all]
    rfl

theorem Line.gives (line : Line) : Gives line.chars line.pair? := by
  cases line with
  | entry indent name named separator value =>
    have entry := @gives_entry _ _ _ value.toList indent.blank (toList_ne_nil named)
      separator.gap fun none => absurd none separator.chars_ne_nil
    rw [String.ofList_toList, String.ofList_toList] at entry
    exact entry
  | remark => exact gives_none (Line.isRemark_chars rfl)
  | blank => exact gives_none (Line.isRemark_chars rfl)

/-- A line gives the same without a carriage return at its end. -/
theorem Line.gives_dropReturn (line : Line) : Gives (Text.dropReturn line.chars) line.pair? := by
  cases line with
  | remark => exact gives_none (isRemark_dropReturn (Line.isRemark_chars rfl))
  | blank => exact gives_none (isRemark_dropReturn (Line.isRemark_chars rfl))
  | entry indent name named separator value =>
    by_cases empty : value.toList = []
    · -- The carriage return is the last of the blanks between the name and no value.
      have entry := @gives_entry _ _ _ value.toList indent.blank (toList_ne_nil named)
        separator.gap.dropReturn fun _ => empty
      rw [chars, empty, escape_nil, List.append_nil, ← List.append_assoc,
        dropReturn_append separator.chars_ne_nil, List.append_assoc]
      rw [empty, escape_nil, List.append_nil, ← empty, String.ofList_toList,
        String.ofList_toList] at entry
      exact entry
    · have kept : Text.dropReturn (escape value.toList) = escape value.toList := by
        refine if_neg fun last => ?_
        exact not_mem_escape (s := value.toList) (.inr rfl) (List.mem_of_getLast? last)
      have whole : Text.dropReturn (Line.entry indent name named separator value).chars =
          (Line.entry indent name named separator value).chars := by
        simp only [chars, ← List.append_assoc]
        rw [dropReturn_append (escape_ne_nil empty), kept]
      rw [whole]
      exact (Line.entry indent name named separator value).gives

end Lines

section Text

theorem cut_of_not_mem {p : Char → Bool} {s : List Char} (free : ∀ c ∈ s, p c = false) :
    Text.cut p s = [s] := by
  induction s with
  | nil => rfl
  | cons c s ih =>
    rw [Text.cut, free c (by simp), ih fun d member => free d (by simp [member])]
    rfl

theorem cut_append {p : Char → Bool} {s rest : List Char} {c : Char}
    (free : ∀ c ∈ s, p c = false) (here : p c = true) :
    Text.cut p (s ++ c :: rest) = s :: Text.cut p rest := by
  induction s with
  | nil => simp [Text.cut, here]
  | cons d s ih =>
    rw [List.cons_append, Text.cut, free d (by simp), ih fun e member => free e (by simp [member])]
    rfl

theorem feed_free {s : List Char} (h : '\n' ∉ s) : ∀ c ∈ s, (c == '\n') = false := by
  intro c member
  have other : c ≠ '\n' := by
    rintro rfl
    exact h member
  simpa using other

theorem lineList_of_not_mem {s : List Char} (free : '\n' ∉ s) :
    Text.lineList s = if s.isEmpty then [] else [s] := by
  simp [Text.lineList, cut_of_not_mem (feed_free free)]

theorem lineList_append {s rest : List Char} (free : '\n' ∉ s) :
    Text.lineList (s ++ '\n' :: rest) = Text.dropReturn s :: Text.lineList rest := by
  have pieces := @cut_append _ s rest _ (feed_free free) (beq_self_eq_true '\n')
  obtain ⟨piece, more, cut⟩ := List.exists_cons_of_ne_nil (Text.cut_ne_nil (· == '\n') rest)
  simp only [Text.lineList, pieces, cut, List.dropLast_cons_cons, List.map_cons, List.cons_append,
    List.getLastD_cons]

/-- A text is empty, or one line that is not ended, or a line with its line feed and a text. -/
theorem line_induction {P : List Char → Prop} (none : P [])
    (last : ∀ s, s ≠ [] → '\n' ∉ s → P s)
    (line : ∀ s rest, '\n' ∉ s → P rest → P (s ++ '\n' :: rest)) (s : List Char) : P s := by
  induction size : s.length using Nat.strong_induction_on generalizing s with
  | _ size ih =>
    by_cases feed : '\n' ∈ s
    · obtain ⟨front, rest, rfl, free⟩ := List.eq_append_cons_of_mem feed
      apply line front rest free
      apply ih rest.length _ rest rfl
      simp only [← size, List.length_append, List.length_cons]
      omega
    · by_cases empty : s = []
      · exact empty ▸ none
      · exact last s empty feed

theorem filterMap_pair?_cons (line : Line) (rest : List Line) :
    (line :: rest).filterMap Line.pair? = line.pair?.toList ++ rest.filterMap Line.pair? := by
  cases pair : line.pair? <;> simp [pair]

theorem filterMap_logicalLines (lines : List Line) (ended : Bool) :
    (logicalLines (written lines ended)).filterMap entry? = lines.filterMap Line.pair? := by
  unfold logicalLines
  fun_induction written lines ended with
  | case1 => rfl
  | case2 line ended =>
    cases ended with
    | true =>
      rw [if_pos rfl, lineList_append line.inLine, line.gives_dropReturn, filterMap_pair?_cons]
      rfl
    | false =>
      rw [if_neg (by simp), List.append_nil, lineList_of_not_mem line.inLine]
      by_cases empty : line.chars.isEmpty = true
      · rw [if_pos empty]
        cases pair : line.pair? with
        | none => simp [pair, joinLines]
        | some e =>
          cases line with
          | entry indent name named => simp [Line.chars, escape_ne_nil (toList_ne_nil named)] at empty
          | _ => simp [Line.pair?] at pair
      · rw [if_neg empty, line.gives, filterMap_pair?_cons]
        rfl
  | case3 line rest ended more ih =>
    rw [lineList_append line.inLine, line.gives_dropReturn, ih, filterMap_pair?_cons]

/-- The written form of entries, with remarks and blank lines among them, is read as these
entries: the names in the order in which they come first, each with its last value. -/
theorem parse_written (lines : List Line) (ended : Bool) :
    (parse (String.ofList (written lines ended))).keys =
        ((lines.filterMap Line.pair?).map Prod.fst).eraseDups ∧
      (∀ name, (parse (String.ofList (written lines ended))).get? name =
        ((lines.filterMap Line.pair?).reverse.find? (·.1 = name)).map Prod.snd) ∧
      (parse (String.ofList (written lines ended))).size =
        ((lines.filterMap Line.pair?).map Prod.fst).eraseDups.length := by
  have read : parse (String.ofList (written lines ended)) =
      Table.ofList (lines.filterMap Line.pair?) := by
    rw [parse, String.toList_ofList, filterMap_logicalLines]
  have keys := Table.keys_ofList (lines.filterMap Line.pair?)
  rw [read]
  refine ⟨keys, Table.get?_ofList _, ?_⟩
  rw [← keys, Table.keys, List.length_map]
  rfl

end Text

end ControlFile

end Runbook
