import Mathlib.Algebra.Group.Nat.Defs
import Mathlib.Data.List.DropRight
import Runbook.Interval
import Runbook.Proofs.Decimals
import Runbook.Proofs.Span
/-! Lengths of time as they are spelt: a number, blanks, and a unit. A stripped text is a length
exactly when it is such a spelling and its product fits, and the length is the product. -/
namespace Runbook

namespace Text

variable {s t front : List Char}

theorem isDigit_of_isBlank {c : Char} (blank : isBlank c = true) : c.isDigit = false := by
  have bounds : '0'.toNat = 48 ∧ '9'.toNat = 57 := by decide
  have apart : ¬ ('0'.toNat ≤ c.toNat ∧ c.toNat ≤ '9'.toNat) := by
    simp [isBlank] at blank
    omega
  simp only [Char.isDigit, Bool.and_eq_false_imp, decide_eq_true_eq, decide_eq_false_iff_not,
    UInt32.le_iff_toNat_le]
  exact fun least most => apart ⟨least, most⟩

/-- Blanks before a text are not looked at. -/
theorem strip_append (blank : ∀ c ∈ front, isBlank c = true) : strip (front ++ s) = strip s := by
  rw [strip, strip, dropBlanks, List.dropWhile_append_of_pos blank, dropBlanks]

theorem dropBlanksEnd_eq_self (ends : ∀ given : s ≠ [], isBlank (s.getLast given) = false) :
    dropBlanksEnd s = s :=
  List.rdropWhile_eq_self_iff.mpr fun given => by simp [ends given]

theorem strip_eq_self (free : ∀ c ∈ s, isBlank c = false) : strip s = s := by
  have kept : dropBlanks s = s := by
    cases s with
    | nil => rfl
    | cons c s => exact List.dropWhile_cons_of_neg (by simp [free c])
  rw [strip, kept, dropBlanksEnd_eq_self fun given => free _ (List.getLast_mem given)]

/-- A stripped text ends with no blank, and so does what it ends with. -/
theorem strip_of_suffix (suffix : t <:+ strip s) : strip t = dropBlanks t := by
  apply dropBlanksEnd_eq_self
  intro given
  have within : dropBlanks t <:+ strip s := (List.dropWhile_suffix isBlank).trans suffix
  have last := List.rdropWhile_last_not isBlank (dropBlanks s) (within.ne_nil given)
  rw [within.getLast given]
  exact Bool.eq_false_iff.mpr last

end Text

namespace Interval

inductive Scale where
  | plain
  | millisecond
  | second
  | minute
  | hour
  | day
  deriving DecidableEq

namespace Scale

def name : Scale → String
  | plain => ""
  | millisecond => "ms"
  | second => "s"
  | minute => "m"
  | hour => "h"
  | day => "d"

def milliseconds : Scale → Nat
  | plain | millisecond => 1
  | second => 1000
  | minute => 60000
  | hour => 3600000
  | day => 86400000

theorem letters (u : Scale) {c : Char} (member : c ∈ u.name.toList) :
    Text.isBlank c = false ∧ c.isDigit = false := by
  have all : u.name.toList.all (fun c => !Text.isBlank c && !c.isDigit) = true := by
    cases u <;> decide
  simpa using List.all_eq_true.mp all c member

end Scale

theorem unit?_eq_some_iff {chars : List Char} {factor : Nat} :
    unit? chars = some factor ↔
      ∃ u : Scale, chars = u.name.toList ∧ factor = u.milliseconds := by
  constructor
  · have named : ∀ u : Scale, String.ofList chars = u.name → some u.milliseconds = some factor →
        ∃ u : Scale, chars = u.name.toList ∧ factor = u.milliseconds := by
      intro u same known
      exact ⟨u, by rw [← same, String.toList_ofList], (Option.some.inj known).symm⟩
    intro known
    unfold unit? at known
    split at known
    · exact named .plain ‹_› known
    · exact named .millisecond ‹_› known
    · exact named .second ‹_› known
    · exact named .minute ‹_› known
    · exact named .hour ‹_› known
    · exact named .day ‹_› known
    · cases known
  · rintro ⟨u, rfl, rfl⟩
    rw [unit?, String.ofList_toList]
    cases u <;> rfl

/-- How a length is spelt, apart from blanks around it. -/
structure Spelling where
  digits : List Char
  gap : List Char
  scale : Scale
  nonempty : digits ≠ []
  decimal : ∀ c ∈ digits, c.isDigit = true
  blank : ∀ c ∈ gap, Text.isBlank c = true

namespace Spelling

def chars (s : Spelling) : List Char := s.digits ++ (s.gap ++ s.scale.name.toList)

def number (s : Spelling) : Nat := Nat.ofDigitChars 10 s.digits 0

def product (s : Spelling) : Nat := s.number * s.scale.milliseconds

theorem stops (s : Spelling) : Span.Stops Numeral.isDigit (s.gap ++ s.scale.name.toList) := by
  intro c first
  rw [Numeral.isDigit_eq]
  rcases List.mem_append.mp (List.mem_of_head? first) with between | letter
  · exact Text.isDigit_of_isBlank (s.blank c between)
  · exact (s.scale.letters letter).2

theorem takeWhile_chars (s : Spelling) : s.chars.takeWhile Numeral.isDigit = s.digits :=
  Span.takeWhile_append (fun c member => by rw [Numeral.isDigit_eq, s.decimal c member]) s.stops

theorem dropWhile_chars (s : Spelling) :
    s.chars.dropWhile Numeral.isDigit = s.gap ++ s.scale.name.toList :=
  Span.dropWhile_append (fun c member => by rw [Numeral.isDigit_eq, s.decimal c member]) s.stops

theorem natural_digits (s : Spelling) (bound : Nat) :
    (Numeral.natural bound s.digits).toOption =
      if s.number ≤ bound then some s.number else none := by
  rw [Numeral.natural_eq s.nonempty s.decimal]
  by_cases within : s.number ≤ bound
  · rw [if_pos within]
    exact congrArg Except.toOption (if_pos within)
  · rw [if_neg within]
    exact congrArg Except.toOption (if_neg within)

end Spelling

/-- A stripped text whose number is read and whose unit is known is spelt as a length. -/
theorem exists_spelling {t chars : List Char} {number factor : Nat}
    (stripped : chars = Text.strip t)
    (read : (Numeral.natural Numeral.maxUnsigned64 (chars.takeWhile Numeral.isDigit)).toOption =
      some number)
    (known : unit? (Text.strip (chars.dropWhile Numeral.isDigit)) = some factor) :
    ∃ s : Spelling, chars = s.chars ∧ factor = s.scale.milliseconds := by
  obtain ⟨u, named, rfl⟩ := unit?_eq_some_iff.mp known
  have suffix : chars.dropWhile Numeral.isDigit <:+ Text.strip t :=
    stripped ▸ List.dropWhile_suffix Numeral.isDigit
  rw [Text.strip_of_suffix suffix, Text.dropBlanks] at named
  refine ⟨⟨chars.takeWhile Numeral.isDigit,
    (chars.dropWhile Numeral.isDigit).takeWhile Text.isBlank, u, ?_, ?_, ?_⟩, ?_, rfl⟩
  · intro empty
    rw [empty] at read
    cases read
  · intro c member
    rw [← Numeral.isDigit_eq]
    exact List.mem_takeWhile_imp member
  · intro c member
    exact List.mem_takeWhile_imp member
  · rw [Spelling.chars, ← named, List.takeWhile_append_dropWhile, List.takeWhile_append_dropWhile]

/-- A text is a length exactly when it is, apart from blanks around it, one digit or more, blanks
and a unit, and neither the number nor its product with the unit is `2 ^ 64` or more. The length is
that product. -/
theorem parse?_iff_spelling (text : String) (n : Nat) :
    parse? text = some n ↔
      ∃ s : Spelling, Text.strip text.toList = s.chars ∧ s.number < 2 ^ 64 ∧
        s.product < 2 ^ 64 ∧ n = s.product := by
  have limit : Numeral.maxUnsigned64 = 2 ^ 64 - 1 := rfl
  constructor
  · intro parsed
    simp only [parse?, Option.bind_eq_bind, Option.bind_eq_some_iff] at parsed
    obtain ⟨number, read, factor, known, within⟩ := parsed
    obtain ⟨s, spelt, rfl⟩ := exists_spelling rfl read known
    rw [spelt, s.takeWhile_chars, s.natural_digits] at read
    split at read
    · rename_i small
      cases read
      split at within
      · rename_i fits
        cases within
        exact ⟨s, spelt, by omega, Nat.lt_of_le_of_lt fits (by decide), rfl⟩
      · cases within
    · cases read
  · rintro ⟨s, spelt, small, fits, rfl⟩
    have scale : unit? (Text.strip (s.gap ++ s.scale.name.toList)) = some s.scale.milliseconds := by
      rw [Text.strip_append s.blank, Text.strip_eq_self fun c member => (s.scale.letters member).1]
      exact unit?_eq_some_iff.mpr ⟨s.scale, rfl, rfl⟩
    have read : (Numeral.natural Numeral.maxUnsigned64 s.digits).toOption = some s.number := by
      rw [s.natural_digits, if_pos (by omega)]
    have within : s.number * s.scale.milliseconds ≤ Numeral.maxUnsigned64 := by
      rw [limit]
      exact Nat.le_sub_one_of_lt fits
    simp only [parse?, spelt, s.takeWhile_chars, s.dropWhile_chars, read, scale,
      Option.bind_eq_bind, Option.bind_some, if_pos within]
    rfl

example : parse? " 007 m" = some 420000 := by cbv

example : parse? "213503982335 d" = none := by cbv

end Interval

end Runbook
