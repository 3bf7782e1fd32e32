import Runbook.Proofs.Lengths
import Runbook.Proofs.Rounding
import Runbook.Proofs.SignatureText
/-! Numerals of whole numbers in signatures. One within the 64-bit range is read as its number, and
one beyond it as a floating-point number, which comes back as the nearer end of the range. -/
namespace Runbook

namespace Binary64

/-- A whole number, or the end of the 64-bit range next to it. -/
def saturated (i : Int) : Int := max (-2 ^ 63) (min (2 ^ 63 - 1) i)

theorem toInt_clamp64 (i : Int) : (clamp64 i).toInt = saturated i := by
  have ends : Int64.minValue.toInt = -2 ^ 63 ∧ Int64.maxValue.toInt = 2 ^ 63 - 1 := by decide
  rw [clamp64, ends.1, ends.2, saturated]
  exact Int64.toInt_ofInt_of_le (by omega) (by omega)

theorem saturated_toInt (n : Int64) : saturated n.toInt = n.toInt := by
  have least := n.le_toInt
  have most := n.toInt_lt
  rw [saturated]
  omega

end Binary64

namespace Value

open Binary64

def number? : Value → Option ℚ
  | .int n => some n.toInt
  | .float x => x.value?
  | _ => none

/-- A number is read as an integer exactly if it is whole, and then as that integer or, if it is
beyond the 64-bit range, as the end next to it. -/
theorem asInt?_eq_some_iff {v : Value} {q : ℚ} (number : v.number? = some q) (k : Int64) :
    v.asInt? = some k ↔ ∃ i : Int, q = i ∧ k.toInt = saturated i := by
  cases v with
  | int n =>
    obtain rfl : (n.toInt : ℚ) = q := by simpa [number?] using number
    rw [asInt?, Option.some_inj]
    constructor
    · rintro rfl
      exact ⟨n.toInt, rfl, (saturated_toInt n).symm⟩
    · rintro ⟨i, whole, same⟩
      obtain rfl : n.toInt = i := by exact_mod_cast whole
      exact (Int64.toInt_inj.mp (same.trans (saturated_toInt n))).symm
  | float x =>
    rw [number?] at number
    rw [asInt?, Option.map_eq_some_iff]
    constructor
    · rintro ⟨i, read, rfl⟩
      rw [toInt?_eq_some_iff, number] at read
      exact ⟨i, Option.some_inj.mp read, toInt_clamp64 i⟩
    · rintro ⟨i, rfl, same⟩
      refine ⟨i, toInt?_eq_some_iff.mpr number, ?_⟩
      exact Int64.toInt_inj.mp ((toInt_clamp64 i).trans same.symm)
  | _ => cases number

end Value

namespace Decimal

open Binary64

variable {s : List Char} {m : Nat} (negative : Bool)

theorem ofDigits_eq (decimal : ∀ c ∈ s, c.isDigit = true) :
    ofDigits s = Nat.ofDigitChars 10 s 0 := by
  rw [ofDigits, Nat.ofDigitChars_eq_foldl]
  refine List.foldl_ext _ _ 0 fun n c member => ?_
  rw [Numeral.digit?_of_isDigit (decimal c member)]
  rfl

/-- Digits alone have neither a point nor a power of ten. -/
theorem magnitude?_digits (nonempty : s ≠ []) (decimal : ∀ c ∈ s, c.isDigit = true) :
    magnitude? s = some (Nat.ofDigitChars 10 s 0, 0) := by
  have inside : ∀ c ∈ s, Numeral.isDigit c = true := by
    intro c member
    rw [Numeral.isDigit_eq]
    exact decimal c member
  have all : s.takeWhile Numeral.isDigit = s ∧ s.dropWhile Numeral.isDigit = [] :=
    ⟨List.takeWhile_eq_self_iff.mpr inside, List.dropWhile_eq_nil_iff.mpr inside⟩
  simp [magnitude?, all, nonempty, tail?, ofDigits_eq decimal]

theorem two_pow_le_ten_pow {a b c d : Nat} (base : 2 ^ a ≤ 10 ^ b) (room : b * c + 1 ≤ d) :
    2 ^ (a * c + 1) ≤ 10 ^ d :=
  calc 2 ^ (a * c + 1) = (2 ^ a) ^ c * 2 := by rw [Nat.pow_succ, Nat.pow_mul]
    _ ≤ (10 ^ b) ^ c * 10 := Nat.mul_le_mul (Nat.pow_le_pow_left base c) (by decide)
    _ = 10 ^ (b * c + 1) := by rw [Nat.pow_succ, Nat.pow_mul]
    _ ≤ 10 ^ d := Nat.pow_le_pow_right (by decide) room

theorem overflow_le : overflow ≤ 10 ^ 310 := by
  have base : 2 ^ 93 ≤ 10 ^ 28 := by norm_num
  have room : 28 * 11 + 1 ≤ 310 := by decide
  have power := two_pow_le_ten_pow base room
  rw [show 93 * 11 + 1 = 1024 from rfl] at power
  exact Nat.le_trans (Nat.sub_le _ _) power

/-- A number with so many digits that its size is not looked at is beyond all finite ones. -/
theorem toBinary64_whole (nonzero : m ≠ 0) :
    toBinary64 ⟨negative, m, 0⟩ = ofQuotient negative m 1 := by
  have count : (310 : Int) < (digitCount m : Int) + 0 ↔ 10 ^ 310 ≤ m := by
    have shorter := Nat.length_toDigits_le_iff (n := m) (b := 10) (k := 310) (by decide) (by decide)
    rw [digitCount, if_neg nonzero]
    omega
  have most : ¬ (digitCount m : Int) + 0 < -330 := by omega
  simp only [toBinary64, nonzero, if_false, most, count]
  split
  · rename_i large
    exact (ofQuotient_of_overflow_le negative (Nat.le_trans overflow_le large)).symm
  · simp [tenTo]

end Decimal

namespace Signature

open Binary64 Runbook.Span

/-- A numeral of a whole number: digits, with a minus sign in front of them or without. -/
structure WholeNumeral where
  negative : Bool
  digits : List Char
  nonempty : digits ≠ []
  decimal : ∀ c ∈ digits, c.isDigit = true

namespace WholeNumeral

variable (z : WholeNumeral)

def chars : List Char := if z.negative then '-' :: z.digits else z.digits

def text : String := String.ofList z.chars

def size : Nat := Nat.ofDigitChars 10 z.digits 0

def value : Int := if z.negative then -(z.size : Int) else z.size

def ofNat (negative : Bool) (n : Nat) : WholeNumeral :=
  ⟨negative, Nat.toDigits 10 n, Nat.toDigits_ne_nil, Numeral.isDigit_of_mem_toDigits n⟩

@[simp] theorem size_ofNat (negative : Bool) (n : Nat) : (ofNat negative n).size = n :=
  Numeral.ofDigitChars_toDigits n

def nearest : Binary64 := Decimal.toBinary64 ⟨z.negative, z.size, 0⟩

def Fits : Prop := -2 ^ 63 ≤ z.value ∧ z.value < 2 ^ 63

instance : Decidable z.Fits := inferInstanceAs (Decidable (_ ∧ _))

theorem fits_iff : z.Fits ↔ z.size ≤ if z.negative then 2 ^ 63 else 2 ^ 63 - 1 := by
  rw [Fits, value]
  split <;> omega

theorem integer_chars :
    (Numeral.integer z.chars).toOption = if z.Fits then some z.value else none := by
  simp only [fits_iff]
  obtain ⟨negative, digits, nonempty, decimal⟩ := z
  cases negative with
  | false =>
    rw [chars, if_neg Bool.false_ne_true, Numeral.integer_plain nonempty decimal, twoTo_eq]
    simp only [size, Bool.false_eq_true, if_false]
    split <;> rfl
  | true =>
    rw [chars, if_pos rfl, Numeral.integer_minus nonempty decimal, twoTo_eq]
    simp only [size, if_true]
    split <;> rfl

theorem integer64?_text :
    Numeral.integer64? z.text = if z.Fits then some (Int64.ofInt z.value) else none := by
  rw [Numeral.integer64?, text, String.toList_ofList, integer_chars]
  split <;> rfl

theorem read?_text : Binary64.read? z.text = some z.nearest := by
  obtain ⟨negative, digits, nonempty, decimal⟩ := z
  have magnitude := Decimal.magnitude?_digits nonempty decimal
  rw [read?, text, String.toList_ofList]
  cases negative with
  | false =>
    have signs := Numeral.not_sign decimal
    simp only [chars, Bool.false_eq_true, if_false]
    split
    · exact absurd List.mem_cons_self signs.2
    · exact absurd List.mem_cons_self signs.1
    · simp only [unsigned?, magnitude, nearest, size]
  | true =>
    simp only [chars, if_true, unsigned?, magnitude, nearest, size]

def literal : Expression :=
  if z.Fits then .int (Int64.ofInt z.value)
  else .float z.nearest

theorem proper_literal : z.literal.Proper := by
  rw [literal]
  split
  · exact .int _
  · exact .float _

theorem number_text : ∃ t, number z.text = .ok t ∧ z.literal.tokens = [t] := by
  by_cases fits : z.Fits
  · refine ⟨.int (Int64.ofInt z.value), ?_, ?_⟩
    · rw [number, integer64?_text, if_pos fits]
    · rw [literal, if_pos fits, Expression.tokens]
  · refine ⟨.float z.nearest, ?_, ?_⟩
    · rw [number, integer64?_text, if_neg fits, read?_text]
    · rw [literal, if_neg fits, Expression.tokens]

theorem tokens_chars {rest : List Char} (stop : Stops isNumberPart rest) :
    tokens (z.chars ++ rest) = (tokens rest).map (z.literal.tokens ++ ·) := by
  obtain ⟨t, read, written⟩ := z.number_text
  rw [written]
  rw [text] at read
  obtain ⟨negative, digits, nonempty, decimal⟩ := z
  have parts : ∀ d ∈ digits, isNumberPart d = true := by
    intro d member
    simp [isNumberPart, decimal d member]
  obtain ⟨c, more, rfl⟩ := List.exists_cons_of_ne_nil nonempty
  have digit := decimal c List.mem_cons_self
  cases negative with
  | false =>
    exact tokens_number (by simp [startsNumber, digit]) (fun d member => parts d (by simp [member]))
      stop read
  | true => exact tokens_number (by simp [startsNumber, digit]) parts stop read

end WholeNumeral

/-- A call of one argument, written without blanks. -/
theorem parse_call_one {function : String} (identifier : IsIdentifier function.toList)
    (z : WholeNumeral) :
    parse (function ++ "(" ++ z.text ++ ")") = .ok (.call function [z.literal]) := by
  have closes : Stops isNumberPart (Token.closing.spelling ++ []) := stops_cons.mpr (by decide)
  have opens : Stops isNamePart
      (Token.opening.spelling ++ (z.chars ++ (Token.closing.spelling ++ []))) :=
    stops_cons.mpr (by decide)
  have chars : (function ++ "(" ++ z.text ++ ")").toList =
      function.toList ++
        (Token.opening.spelling ++ (z.chars ++ (Token.closing.spelling ++ []))) := by
    simp [WholeNumeral.text, Token.spelling]
  have spelt : tokens (function ++ "(" ++ z.text ++ ")").toList =
      .ok (Expression.call function [z.literal]).tokens := by
    rw [chars, tokens_name identifier opens, tokens_mark (.inl rfl), z.tokens_chars closes,
      tokens_mark (.inr (.inl rfl)), tokens, String.ofList_toList]
    rfl
  rw [parse, spelt]
  exact whole_eq_ok_iff.mpr ⟨.call (by simpa using z.proper_literal), rfl⟩

namespace WholeNumeral

variable (z : WholeNumeral)

def read : Value :=
  if z.Fits then .int (Int64.ofInt z.value)
  else .float z.nearest

theorem evaluate_literal (f : Factory) (instances : Instances) (objects : Objects) :
    f.evaluate instances z.literal objects = .ok (z.read, objects) := by
  by_cases fits : z.Fits
  · rw [literal, read, if_pos fits, if_pos fits, Factory.evaluate]
  · rw [literal, read, if_neg fits, if_neg fits, Factory.evaluate]

theorem le_size_of_not_fits (beyond : ¬ z.Fits) : 2 ^ 63 ≤ z.size := by
  rw [fits_iff] at beyond
  split at beyond <;> omega

theorem lt_overflow_of_fits (fits : z.Fits) : z.size < overflow := by
  have least := lt_overflow
  rw [fits_iff] at fits
  split at fits <;> omega

/-- A numeral is read as the 64-bit integer next to its number, unless it is infinite as a
floating-point number. -/
theorem asInt?_read_of_lt (small : z.size < overflow) :
    ∃ k : Int64, z.read.asInt? = some k ∧ k.toInt = saturated z.value := by
  by_cases fits : z.Fits
  · obtain ⟨least, most⟩ := fits
    refine ⟨Int64.ofInt z.value, by rw [read, if_pos ⟨least, most⟩, Value.asInt?], ?_⟩
    rw [Int64.toInt_ofInt_of_le least most, saturated]
    omega
  · have large := z.le_size_of_not_fits fits
    have nonzero : z.size ≠ 0 := by omega
    -- The range ends at a power of two, so that rounding brings no number back into it.
    obtain ⟨n, least, rounded⟩ := toInt?_ofQuotient (j := 11) z.negative large small
    refine ⟨clamp64 (if z.negative then -(n : Int) else n), ?_, ?_⟩
    · rw [read, if_neg fits, Value.asInt?, nearest, Decimal.toBinary64_whole z.negative nonzero,
        rounded]
      rfl
    · rw [toInt_clamp64, saturated, saturated, value]
      split <;> omega

theorem read_of_overflow_le (large : overflow ≤ z.size) :
    z.read = .float (.infinite z.negative) := by
  have beyond : ¬ z.Fits := fun fits => Nat.not_lt.mpr large (z.lt_overflow_of_fits fits)
  have least := z.le_size_of_not_fits beyond
  have nonzero : z.size ≠ 0 := by omega
  rw [read, if_neg beyond, nearest, Decimal.toBinary64_whole z.negative nonzero,
    ofQuotient_of_overflow_le z.negative large]

end WholeNumeral

theorem build_call_one (c : Constructor) (instances : Instances) (objects : Objects)
    (z : WholeNumeral) :
    Factory.standard.build instances objects (c.name ++ "(" ++ z.text ++ ")") =
      (c.construct objects [z.read]).mapError (.refused c.name) := by
  have identifier : IsIdentifier c.name.toList := by
    cases c <;> simp [Constructor.name, IsIdentifier] <;> decide
  have known : Factory.standard.constructor? c.name = some c := by
    cases c <;> rfl
  rw [Factory.build, parse_call_one identifier]
  simp [Factory.evaluate, Factory.evaluateAll, z.evaluate_literal, Factory.construct, known,
    Except.mapError, bind, Except.bind, pure, Except.pure]

/-- As a text, a numeral is read exactly or not at all. -/
theorem WholeNumeral.asInt?_text (z : WholeNumeral) :
    (Value.text z.text).asInt? = if z.Fits then some (Int64.ofInt z.value) else none := by
  have plain : ∀ c ∈ z.digits, Text.isBlank c = false := by
    intro c member
    by_contra blank
    have digit := Text.isDigit_of_isBlank (Bool.eq_true_of_not_eq_false blank)
    rw [z.decimal c member] at digit
    cases digit
  have free : ∀ c ∈ z.chars, Text.isBlank c = false := by
    rw [WholeNumeral.chars]
    split
    · exact List.forall_mem_cons.mpr ⟨by decide, plain⟩
    · exact plain
  rw [Value.asInt?, Text.trim, WholeNumeral.text, String.toList_ofList, Text.strip_eq_self free]
  exact z.integer64?_text

/-- A numeral makes an integer, or a counter, that is its number as long as that is one of 64 bits.
It still makes one beyond them, where it should make none: the end of the range that is next to its
number, so that it is a different one. Only a numeral that is infinite as a floating-point number
is refused. The text of a numeral is read exactly or not at all. Floating-point numbers are behind
the difference: those that are whole are read as integers, and the ones out of range as its ends. -/
theorem numerals_saturate (instances : Instances) (objects : Objects) :
    (∀ z : WholeNumeral, z.size < overflow →
      ∃ k : Int64, k.toInt = saturated z.value ∧ (k.toInt = z.value ↔ z.Fits) ∧
        Factory.standard.build instances objects ("Int(" ++ z.text ++ ")") =
          .ok (.int k, objects) ∧
        Factory.standard.build instances objects ("Counter(" ++ z.text ++ ")") =
          .ok (objects.add (.counter k))) ∧
      (∀ z : WholeNumeral, overflow ≤ z.size → ∀ name ∈ ["Int", "Counter"],
        Factory.standard.build instances objects (name ++ "(" ++ z.text ++ ")") =
          .error (.refused name (.notInteger (if z.negative then "-inf" else "inf")))) ∧
      (∀ z : WholeNumeral,
        (Value.text z.text).asInt? = if z.Fits then some (Int64.ofInt z.value) else none) ∧
      ∀ (v : Value) (q : ℚ), v.number? = some q → ∀ k : Int64,
        v.asInt? = some k ↔ ∃ i : Int, q = i ∧ k.toInt = saturated i := by
  refine ⟨fun z small => ?_, fun z large name member => ?_, fun z => z.asInt?_text,
    fun v q number k => Value.asInt?_eq_some_iff number k⟩
  · obtain ⟨k, read, same⟩ := z.asInt?_read_of_lt small
    refine ⟨k, same, ?_, ?_, ?_⟩
    · rw [same, saturated, WholeNumeral.Fits]
      omega
    · refine (build_call_one .int instances objects z).trans ?_
      rw [Constructor.construct, read]
      rfl
    · refine (build_call_one .counter instances objects z).trans ?_
      rw [Constructor.construct, read]
      rfl
  · have infinite := z.read_of_overflow_le large
    rcases List.mem_pair.mp member with rfl | rfl
    · refine (build_call_one .int instances objects z).trans ?_
      rw [infinite]
      rfl
    · refine (build_call_one .counter instances objects z).trans ?_
      rw [infinite]
      rfl

theorem numerals_saturate_ends :
    let next := WholeNumeral.ofNat false (2 ^ 63)
    let huge := WholeNumeral.ofNat true (10 ^ 310)
    let x := Binary64.finite false (2 ^ 52) 11
    (next.size < overflow ∧
        ∃ k : Int64, Factory.standard.build .empty .empty ("Int(" ++ next.text ++ ")") =
          .ok (.int k, .empty) ∧ k.toInt = 2 ^ 63 - 1) ∧
      (overflow ≤ huge.size ∧ "Counter" ∈ ["Int", "Counter"] ∧
        Factory.standard.build .empty .empty ("Counter(" ++ huge.text ++ ")") =
          .error (.refused "Counter" (.notInteger "-inf"))) ∧
      (Value.float x).number? = some (2 ^ 63) ∧
        ∃ k : Int64, (Value.float x).asInt? = some k ∧ k.toInt = 2 ^ 63 - 1 := by
  intro next huge x
  have small : next.size < overflow := by
    rw [WholeNumeral.size_ofNat]
    exact lt_overflow
  have large : overflow ≤ huge.size := by
    rw [WholeNumeral.size_ofNat]
    exact Decimal.overflow_le
  have number : (Value.float x).number? = some (2 ^ 63) := by
    change some (((2 ^ 52 : Nat) : ℚ) * 2 ^ (11 : Int)) = some (2 ^ 63)
    norm_num
  obtain ⟨reads, refuses, -, values⟩ := numerals_saturate .empty .empty
  obtain ⟨k, same, -, made, -⟩ := reads next small
  have ends : saturated next.value = 2 ^ 63 - 1 := by
    rw [WholeNumeral.value, WholeNumeral.size_ofNat]
    rfl
  refine ⟨⟨small, k, made, same.trans ends⟩,
    ⟨large, by simp, refuses huge large "Counter" (by simp)⟩, number, clamp64 (2 ^ 63), ?_, ?_⟩
  · exact (values _ _ number _).mpr ⟨2 ^ 63, by norm_num, toInt_clamp64 _⟩
  · rw [toInt_clamp64]
    rfl

/-- The first whole number beyond the range is taken for the last one in it. -/
theorem next_numeral_is_changed :
    Factory.standard.build .empty .empty "Int(9223372036854775808)" =
        .ok (.int Int64.maxValue, .empty) ∧
      Factory.standard.build .empty .empty "Counter(9223372036854775808)" =
        .ok (.object 0, ⟨[.counter Int64.maxValue]⟩) ∧
      Int64.maxValue.toInt ≠ 9223372036854775808 := by
  let next := WholeNumeral.ofNat false 9223372036854775808
  have spelt (c : Constructor) (signature : String)
      (written : signature = c.name ++ "(" ++ next.text ++ ")") :=
    (congrArg (Factory.standard.build .empty .empty) written).trans
      (build_call_one c .empty .empty next)
  have small : next.size < overflow := by
    rw [WholeNumeral.size_ofNat]
    exact lt_overflow
  obtain ⟨k, read, same⟩ := next.asInt?_read_of_lt small
  obtain rfl : k = Int64.maxValue := by
    rw [WholeNumeral.value, WholeNumeral.size_ofNat] at same
    exact Int64.toInt_inj.mp same
  refine ⟨(spelt .int _ (by decide)).trans ?_, (spelt .counter _ (by decide)).trans ?_, ?_⟩
  · rw [Constructor.construct, read]
    rfl
  · rw [Constructor.construct, read]
    rfl
  · rw [Int64.toInt_maxValue]
    decide

end Signature

end Runbook
