import Mathlib.Algebra.Group.Nat.Even
import Mathlib.Data.List.DropRight
import Runbook.Proofs.ControlText
/-! Backslashes in pairs. A line that goes on leaves its last backslash behind, so that whatever is
joined ends with an even number of them. Then they also pair from the front, in the line as in the
name and the value that are taken from it, and none has nothing behind it. -/
namespace Runbook

namespace ControlFile

section Ends

/-- Pairs and other characters, and then a backslash with nothing behind it. -/
def Lone (s : List Char) : Prop := ∃ front, Whole front ∧ s = front ++ ['\\']

/-- Reading from the front comes to an end in one of two ways. -/
theorem whole_or_lone (s : List Char) : Whole s ∨ Lone s := by
  fun_induction unescape s with
  | case1 => exact .inl .nil
  | case2 => exact .inr ⟨[], .nil, rfl⟩
  | case3 c rest ih =>
    rcases ih with whole | ⟨front, whole, rfl⟩
    · exact .inl (.pair whole)
    · exact .inr ⟨'\\' :: c :: front, .pair whole, rfl⟩
  | case4 c rest alone pair ih =>
    -- The cases before this one are all that a backslash can be the first character of.
    have plain : c ≠ '\\' := by
      rintro rfl
      cases rest with
      | nil => exact alone rfl rfl
      | cons d more => exact pair d more rfl rfl
    rcases ih with whole | ⟨front, whole, rfl⟩
    · exact .inl (.plain plain whole)
    · exact .inr ⟨c :: front, .plain plain whole, rfl⟩

theorem continues_eq_true_of_lone {s : List Char} (h : Lone s) : continues s = true := by
  obtain ⟨front, whole, rfl⟩ := h
  induction whole with
  | nil => decide
  | pair _ ih => exact (continues_pair _ _).trans ih
  | plain h _ ih => exact (continues_plain h).trans ih

/-- The number of backslashes at the end tells in which way reading from the front ends. -/
theorem whole_iff_continues {s : List Char} : Whole s ↔ continues s = false := by
  refine ⟨continues_eq_false_of_whole, fun even => (whole_or_lone s).resolve_right fun lone => ?_⟩
  rw [continues_eq_true_of_lone lone] at even
  contradiction

theorem whole_iff_even {s : List Char} : Whole s ↔ Even (s.rtakeWhile (· = '\\')).length := by
  rw [whole_iff_continues, continues, beq_eq_false_iff_ne, List.rtakeWhile, List.length_reverse,
    Nat.even_iff]
  omega

/-- A line that goes on is whole without its last backslash. -/
theorem whole_dropLast {line : List Char} (h : continues line = true) : Whole line.dropLast := by
  rcases whole_or_lone line with whole | ⟨front, whole, rfl⟩
  · rw [continues_eq_false_of_whole whole] at h
    contradiction
  · rwa [List.dropLast_concat]

end Ends

section Joined

/-- What is open is whole, at each line that is joined to it and at the end of the text. -/
theorem whole_joinLines {open? : Option (List Char)} (opened : Whole (open?.getD []))
    (lines : List (List Char)) : ∀ line ∈ joinLines open? lines, Whole line := by
  fun_induction joinLines open? lines with
  | case1 open? =>
    intro line member
    rwa [Option.mem_toList.mp member] at opened
  | case2 open? raw rest line remark ih => exact ih .nil
  | case3 open? raw rest line _ goesOn ih => exact ih (opened.append (whole_dropLast goesOn))
  | case4 open? raw rest line _ ends ih =>
    have last : Whole line := whole_iff_continues.mpr (by simpa using ends)
    exact List.forall_mem_cons.mpr ⟨opened.append last, ih .nil⟩

theorem whole_of_mem_logicalLines {text line : List Char} (h : line ∈ logicalLines text) :
    Whole line :=
  @whole_joinLines none .nil _ line h

end Joined

section Parts

variable {s : List Char}

theorem Whole.tail {c : Char} (h : Whole (c :: s)) (plain : c ≠ '\\') : Whole s := by
  cases h with
  | pair => exact absurd rfl plain
  | plain _ more => exact more

theorem Whole.dropWhile {p : Char → Bool} (h : Whole s) (kept : p '\\' = false) :
    Whole (s.dropWhile p) := by
  induction h with
  | nil => exact .nil
  | pair more =>
    rw [List.dropWhile_cons_of_neg (by simp [kept])]
    exact .pair more
  | @plain c rest plain more ih =>
    rw [List.dropWhile_cons]
    split
    · exact ih
    · exact .plain plain more

theorem Whole.splitName (h : Whole s) : Whole (splitName s).1 ∧ Whole (splitName s).2 := by
  induction h with
  | nil => exact ⟨.nil, .nil⟩
  | pair _ ih => exact ⟨.pair ih.1, ih.2⟩
  | plain plain more ih =>
    rw [splitName_plain plain]
    split
    · exact ⟨.nil, .plain plain more⟩
    · exact ⟨.plain plain ih.1, ih.2⟩

theorem Whole.dropSeparator (h : Whole s) : Whole (dropSeparator s) := by
  have rest : Whole (Text.dropBlanks s) := h.dropWhile (by decide)
  rw [ControlFile.dropSeparator]
  split
  case h_1 behind sign | h_2 behind sign =>
    rw [sign] at rest
    have whole : Whole behind := rest.tail (by decide)
    exact whole.dropWhile (by decide)
  case h_3 => exact rest

/-- A pair stands for a character, and any other character for itself. -/
theorem Whole.unescape_ne_nil (h : Whole s) (written : s ≠ []) : unescape s ≠ [] := by
  cases h with
  | nil => exact absurd rfl written
  | pair => exact List.cons_ne_nil _ _
  | plain plain =>
    rw [unescape_plain plain]
    exact List.cons_ne_nil _ _

end Parts

section Sure

/-- The same reading as that of `unescape`, but there is none of a backslash with nothing behind
it. -/
def unescape? : List Char → Option (List Char)
  | [] => some []
  | ['\\'] => none
  | '\\' :: c :: rest => (unescape? rest).map (unescape ['\\', c] ++ ·)
  | c :: rest => (unescape? rest).map (c :: ·)

theorem unescape?_plain {c : Char} {rest : List Char} (h : c ≠ '\\') :
    unescape? (c :: rest) = (unescape? rest).map (c :: ·) :=
  unescape?.eq_4 _ _ (by simp [h]) (by simp [h])

theorem unescape?_of_whole {s : List Char} (h : Whole s) : unescape? s = some (unescape s) := by
  induction h with
  | nil => rfl
  | pair _ ih =>
    rw [unescape?, ih]
    rfl
  | plain plain _ ih =>
    rw [unescape?_plain plain, ih, unescape_plain plain]
    rfl

theorem unescape?_of_lone {s : List Char} (h : Lone s) : unescape? s = none := by
  obtain ⟨front, whole, rfl⟩ := h
  induction whole with
  | nil => rfl
  | pair _ ih =>
    rw [List.cons_append, List.cons_append, unescape?, ih]
    rfl
  | plain plain _ ih =>
    rw [List.cons_append, unescape?_plain plain, ih]
    rfl

/-- There is a reading exactly of what is whole, and it is that of `unescape`. -/
theorem unescape?_eq_some_iff {s t : List Char} :
    unescape? s = some t ↔ Whole s ∧ unescape s = t := by
  constructor
  · intro read
    rcases whole_or_lone s with whole | lone
    · exact ⟨whole, Option.some.inj ((unescape?_of_whole whole).symm.trans read)⟩
    · rw [unescape?_of_lone lone] at read
      contradiction
  · rintro ⟨whole, rfl⟩
    exact unescape?_of_whole whole

end Sure

section Raw

structure RawEntry where
  name : List Char
  value : List Char
  named : name ≠ []
  deriving DecidableEq

def RawEntry.read (raw : RawEntry) : String × String :=
  (String.ofList (unescape raw.name), String.ofList (unescape raw.value))

def raw? (line : List Char) : Option RawEntry :=
  if named : (splitName line).1 = [] then none
  else some ⟨(splitName line).1, dropSeparator (splitName line).2, named⟩

def rawEntries (text : String) : List RawEntry := (logicalLines text.toList).filterMap raw?

theorem map_read_raw? (line : List Char) : (raw? line).map RawEntry.read = entry? line := by
  by_cases unnamed : (splitName line).1 = []
  · simp [raw?, entry?, unnamed]
  · simp [raw?, entry?, unnamed, RawEntry.read]

theorem parse_eq (text : String) :
    parse text = Table.ofList ((rawEntries text).map RawEntry.read) := by
  rw [parse, rawEntries, List.map_filterMap]
  simp only [map_read_raw?]

theorem whole_of_mem_rawEntries {text : String} {raw : RawEntry} (h : raw ∈ rawEntries text) :
    Whole raw.name ∧ Whole raw.value := by
  obtain ⟨line, member, given⟩ := List.mem_filterMap.mp h
  obtain ⟨name, rest⟩ := (whole_of_mem_logicalLines member).splitName
  rw [raw?] at given
  split at given
  · cases given
  · obtain rfl := Option.some.inj given
    exact ⟨name, rest.dropSeparator⟩

/-- However its lines are joined, each line of a control file ends with an even number of
backslashes. So the names and the values that are taken from the lines are made up of pairs and
other characters, none of their backslashes has nothing behind it, and no entry has an empty name. -/
theorem backslashes_pair (text : String) :
    (∀ line ∈ logicalLines text.toList, Even (line.rtakeWhile (· = '\\')).length) ∧
      parse text = Table.ofList ((rawEntries text).map RawEntry.read) ∧
      (∀ raw ∈ rawEntries text, Whole raw.name ∧ Whole raw.value) ∧
      (∀ raw ∈ rawEntries text, unescape? raw.name = some (unescape raw.name) ∧
        unescape? raw.value = some (unescape raw.value)) ∧
      "" ∉ (parse text).keys := by
  refine ⟨fun line member => ?_, parse_eq text, fun raw member => whole_of_mem_rawEntries member,
    fun raw member => ?_, fun unnamed => ?_⟩
  · exact whole_iff_even.mp (whole_of_mem_logicalLines member)
  · obtain ⟨name, value⟩ := whole_of_mem_rawEntries member
    exact ⟨unescape?_eq_some_iff.mpr ⟨name, rfl⟩, unescape?_eq_some_iff.mpr ⟨value, rfl⟩⟩
  · rw [parse_eq, Table.keys_ofList, List.mem_eraseDups, List.map_map] at unnamed
    obtain ⟨raw, member, empty⟩ := List.mem_map.mp unnamed
    obtain ⟨name, _⟩ := whole_of_mem_rawEntries member
    exact name.unescape_ne_nil raw.named (by simpa [RawEntry.read] using empty)

/-- Of three backslashes one is left behind, before another line as at the end of the text. -/
theorem backslashes_pair_spread :
    let text := "k\\\\\\\n\\\\=v\\\\\\"
    let line := ['k', '\\', '\\', '\\', '\\', '=', 'v', '\\', '\\']
    let raw : RawEntry := ⟨['k', '\\', '\\', '\\', '\\'], ['v', '\\', '\\'], by decide⟩
    line ∈ logicalLines text.toList ∧ raw ∈ rawEntries text ∧
      Even (line.rtakeWhile (· = '\\')).length ∧ (Whole raw.name ∧ Whole raw.value) ∧
      unescape? raw.name = some (unescape raw.name) ∧
      unescape? raw.value = some (unescape raw.value) := by
  intro text line raw
  have joined : line ∈ logicalLines text.toList := by decide
  have taken : raw ∈ rawEntries text := by decide
  obtain ⟨even, _, whole, read, _⟩ := backslashes_pair text
  exact ⟨joined, taken, even line joined, whole raw taken, read raw taken⟩

end Raw

end ControlFile

end Runbook
