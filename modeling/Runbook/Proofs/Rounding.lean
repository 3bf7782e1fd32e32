import Mathlib.Algebra.Order.Field.Power
import Mathlib.Algebra.Order.Field.Rat
import Mathlib.Data.Rat.Cast.Lemmas
import Mathlib.Tactic.NormNum
import Mathlib.Tactic.Positivity
import Runbook.Number.Decimal
import Runbook.Proofs.Decimals
/-! Floating-point numbers as rational numbers, and what large whole numbers are rounded to: they
become no smaller than the power of two below them, and infinite from the middle between the
largest number and the next power of two on. -/
namespace Runbook.Binary64

def value? : Binary64 → Option ℚ
  | .finite negative m e => some (if negative then -(m * 2 ^ e) else m * 2 ^ e)
  | _ => none

theorem twoTo_eq (n : Nat) : twoTo n = 2 ^ n := by rw [twoTo, Nat.pow_eq]

section Whole

variable {m n : Nat} {e i : Int}

def whole? (m : Nat) (e : Int) : Option Nat :=
  if 0 ≤ e then some (m * twoTo e.toNat)
  else if m % twoTo (-e).toNat = 0 then some (m / twoTo (-e).toNat) else none

theorem whole?_eq_some_iff : whole? m e = some n ↔ (m : ℚ) * 2 ^ e = n := by
  rcases le_or_gt 0 e with up | down
  · obtain ⟨k, rfl⟩ := Int.eq_ofNat_of_zero_le up
    rw [whole?, if_pos up, Int.toNat_natCast, zpow_natCast, Option.some_inj, twoTo_eq]
    norm_cast
  · obtain ⟨k, rfl⟩ : ∃ k : Nat, e = -k := ⟨e.natAbs, by omega⟩
    have positive : 0 < 2 ^ k := Nat.two_pow_pos k
    have exact_iff : (m : ℚ) * 2 ^ (-(k : Int)) = n ↔ m = n * 2 ^ k := by
      rw [zpow_neg, zpow_natCast, ← div_eq_mul_inv, div_eq_iff (by positivity)]
      norm_cast
    rw [whole?, if_neg (by omega), neg_neg, Int.toNat_natCast, twoTo_eq, exact_iff]
    constructor
    · intro read
      split at read
      · rename_i divides
        cases read
        exact (Nat.div_mul_cancel (Nat.dvd_of_mod_eq_zero divides)).symm
      · cases read
    · rintro rfl
      rw [if_pos (Nat.mul_mod_left n _), Nat.mul_div_cancel n positive]

theorem whole?_natCast (m k : Nat) : whole? m k = some (m * 2 ^ k) := by
  rw [whole?, if_pos (Int.natCast_nonneg k), Int.toNat_natCast, twoTo_eq]

theorem toInt?_finite (negative : Bool) :
    (finite negative m e).toInt? =
      (whole? m e).map fun (n : Nat) => if negative then -(n : Int) else n := by
  change ((whole? m e).bind fun n => some (n : Int)).map
    (fun n => if negative then -n else n) = _
  cases whole? m e <;> rfl

theorem toInt?_finite_natCast (negative : Bool) (m k : Nat) :
    (finite negative m k).toInt? =
      some (if negative then -((m * 2 ^ k : Nat) : Int) else (m * 2 ^ k : Nat)) := by
  rw [toInt?_finite, whole?_natCast, Option.map_some]

/-- A number is read as a whole number exactly if it is one. -/
theorem toInt?_eq_some_iff {x : Binary64} : x.toInt? = some i ↔ x.value? = some (i : ℚ) := by
  cases x with
  | nan => simp [toInt?, value?]
  | infinite negative => simp [toInt?, value?]
  | finite negative m e =>
    have nonneg : (0 : ℚ) ≤ m * 2 ^ e := by positivity
    simp only [toInt?_finite, Option.map_eq_some_iff, whole?_eq_some_iff, value?, Option.some_inj]
    constructor
    · rintro ⟨n, same, rfl⟩
      rw [same]
      cases negative <;> simp
    · intro same
      refine ⟨i.natAbs, ?_, ?_⟩
      · rw [Nat.cast_natAbs, Int.cast_abs, ← same]
        cases negative <;> simp
      · cases negative with
        | false =>
          have : (0 : ℚ) ≤ i := by simpa [← same] using nonneg
          have : 0 ≤ i := by exact_mod_cast this
          simp only [Bool.false_eq_true, if_false]
          omega
        | true =>
          have : (i : ℚ) ≤ 0 := by simpa [← same] using nonneg
          have : i ≤ 0 := by exact_mod_cast this
          simp only [if_true]
          omega

end Whole

section Rounding

/-- From here on numbers are infinite: the largest finite one is `(2 ^ 53 - 1) * 2 ^ 971`, and this
is as far from it as from the next power of two. -/
def overflow : Nat := 2 ^ 1024 - 2 ^ 970

theorem overflow_eq : overflow = (2 ^ 54 - 1) * 2 ^ 970 := by
  have shift : 2 ^ 1024 = 2 ^ 54 * 2 ^ 970 := by rw [← Nat.pow_add]
  rw [overflow, shift, Nat.sub_mul, Nat.one_mul]

theorem lt_overflow : 2 ^ 63 < overflow := by
  have step := Nat.two_pow_pos 970
  rw [overflow_eq]
  omega

variable {num den m k j : Nat} {negative : Bool}

theorem roundQuotient_cases (num den : Nat) :
    roundQuotient num den = num / den ∧
        (2 * (num % den) < den ∨ 2 * (num % den) = den ∧ num / den % 2 = 0) ∨
      roundQuotient num den = num / den + 1 ∧
        (den < 2 * (num % den) ∨ 2 * (num % den) = den ∧ num / den % 2 = 1) := by
  simp only [roundQuotient]
  split
  · exact .inr ⟨rfl, .inl ‹_›⟩
  · split
    · rename_i tie
      rcases Nat.mod_two_eq_zero_or_one (num / den) with even | odd
      · exact .inl ⟨by rw [even, Nat.add_zero], .inr ⟨tie, even⟩⟩
      · exact .inr ⟨by rw [odd], .inr ⟨tie, odd⟩⟩
    · exact .inl ⟨rfl, .inl (by omega)⟩

/-- A quotient below `2 ^ 53` is rounded up to that from the middle of the last step on. -/
theorem roundQuotient_eq_iff (below : num < 2 ^ 53 * (2 * den)) :
    roundQuotient num (2 * den) = 2 ^ 53 ↔ (2 ^ 54 - 1) * den ≤ num := by
  have positive : 0 < 2 * den := Nat.pos_of_mul_pos_left (Nat.zero_lt_of_lt below)
  have quotient : num / (2 * den) < 2 ^ 53 := (Nat.div_lt_iff_lt_mul positive).mpr below
  have remainder := Nat.mod_lt num positive
  have whole := Nat.div_add_mod num (2 * den)
  have rounded := roundQuotient_cases num (2 * den)
  generalize num / (2 * den) = q at *
  generalize num % (2 * den) = r at *
  -- The last step begins at an odd number, so that its middle is rounded up as well.
  by_cases last : q = 2 ^ 53 - 1
  · subst last
    omega
  · have early : 2 * den * q ≤ 2 * den * (2 ^ 53 - 2) := Nat.mul_le_mul_left _ (by omega)
    omega

theorem inUnits_one (m k : Nat) : inUnits m 1 k = (m, 2 ^ k) := by
  simp [inUnits]

variable (low : 2 ^ (k + 52) ≤ m) (high : m < 2 ^ (k + 53))

include low high

theorem quotient_bounds : 2 ^ 52 ≤ m / 2 ^ k ∧ m / 2 ^ k < 2 ^ 53 := by
  have positive := Nat.two_pow_pos k
  rw [Nat.le_div_iff_mul_le positive, Nat.div_lt_iff_lt_mul positive, ← Nat.pow_add, ← Nat.pow_add,
    Nat.add_comm 52, Nat.add_comm 53]
  exact ⟨low, high⟩

/-- A whole number of `k + 53` bits is written with `k` as its exponent. -/
theorem exponentFor_one : exponentFor m 1 = k := by
  have bits : m.log2 = k + 52 := by
    rw [Nat.log2_eq_iff (Nat.ne_zero_of_lt (Nat.lt_of_lt_of_le (Nat.two_pow_pos _) low))]
    exact ⟨low, high⟩
  have guess : ((m.log2 : Int) - (Nat.log2 1 : Int) - 52) = k := by
    have one : Nat.log2 1 = 0 := (Nat.log2_eq_iff Nat.one_ne_zero).mpr (by decide)
    rw [bits, one]
    omega
  have normal : ¬ m / 2 ^ k < twoTo 52 := by
    rw [twoTo_eq]
    exact Nat.not_lt.mpr (quotient_bounds low high).1
  simp only [exponentFor, guess, inUnits_one, normal, if_false, minExponent]
  omega

theorem roundQuotient_bounds :
    2 ^ 52 ≤ roundQuotient m (2 ^ k) ∧ roundQuotient m (2 ^ k) ≤ 2 ^ 53 := by
  have quotient := quotient_bounds low high
  rcases roundQuotient_cases m (2 ^ k) with ⟨rounded, -⟩ | ⟨rounded, -⟩ <;> omega

theorem ofQuotient_one :
    ofQuotient negative m 1 =
      let rounded := roundQuotient m (2 ^ k)
      if rounded = 2 ^ 53 then
        if maxExponent < k + 1 then .infinite negative else .finite negative (2 ^ 52) (k + 1)
      else if maxExponent < k then .infinite negative else .finite negative rounded k := by
  have units := exponentFor_one low high
  have positive : m ≠ 0 := Nat.ne_zero_of_lt (Nat.lt_of_lt_of_le (Nat.two_pow_pos _) low)
  have atMost := (roundQuotient_bounds low high).2
  have most : maxSignificand = 2 ^ 53 - 1 := by rw [maxSignificand, twoTo_eq]
  simp only [ofQuotient, positive, if_false, units, inUnits_one, most]
  by_cases full : roundQuotient m (2 ^ k) = 2 ^ 53
  · rw [full]
    rfl
  · have fits : ¬ 2 ^ 53 - 1 < roundQuotient m (2 ^ k) := by omega
    simp only [full, fits, if_false]

/-- The numbers that do not fit an exponent are those with a larger one, and those that are rounded
up from it. -/
theorem beyond_iff (e : Nat) :
    (2 ^ 54 - 1) * 2 ^ e ≤ m ↔ e + 1 < k ∨ k = e + 1 ∧ roundQuotient m (2 ^ k) = 2 ^ 53 := by
  rcases Nat.lt_trichotomy k (e + 1) with less | rfl | more
  · have bound : m < 2 ^ 53 * 2 ^ e := by
      rw [← Nat.pow_add]
      exact Nat.lt_of_lt_of_le high (Nat.pow_le_pow_right (by decide) (by omega))
    omega
  · have double : 2 ^ (e + 1) = 2 * 2 ^ e := Nat.pow_succ'
    have below : m < 2 ^ 53 * (2 * 2 ^ e) := by
      rw [← double, ← Nat.pow_add, Nat.add_comm]
      exact high
    rw [double, roundQuotient_eq_iff below]
    omega
  · have bound : 2 ^ 54 * 2 ^ e ≤ m := by
      rw [← Nat.pow_add]
      exact Nat.le_trans (Nat.pow_le_pow_right (by decide) (by omega)) low
    omega

end Rounding

section Magnitude

variable {m j : Nat} (negative : Bool)

theorem exists_bits (h : 2 ^ (j + 52) ≤ m) :
    ∃ k, j ≤ k ∧ 2 ^ (k + 52) ≤ m ∧ m < 2 ^ (k + 53) := by
  have nonzero : m ≠ 0 := Nat.ne_zero_of_lt (Nat.lt_of_lt_of_le (Nat.two_pow_pos _) h)
  have bits : j + 52 ≤ m.log2 := (Nat.le_log2 nonzero).mpr h
  obtain ⟨k, length⟩ := Nat.exists_eq_add_of_le' (Nat.le_trans (Nat.le_add_left 52 j) bits)
  refine ⟨k, by omega, ?_, ?_⟩
  · rw [← length]
    exact Nat.log2_self_le nonzero
  · rw [show k + 53 = m.log2 + 1 by omega]
    exact Nat.lt_log2_self

theorem ofQuotient_of_overflow_le (large : overflow ≤ m) :
    ofQuotient negative m 1 = .infinite negative := by
  have normal : 2 ^ (0 + 52) ≤ m := by
    have least := lt_overflow
    omega
  rw [overflow_eq] at large
  obtain ⟨k, -, low, high⟩ := exists_bits normal
  have beyond := (beyond_iff low high 970).mp large
  rw [ofQuotient_one low high, maxExponent]
  by_cases full : roundQuotient m (2 ^ k) = 2 ^ 53
  · simp only [full, if_true]
    rw [if_pos (by omega)]
  · simp only [full, if_false]
    rw [if_pos (by omega)]

/-- A whole number that does not become infinite stays whole, and does not fall below the powers of
two that it was not below before. -/
theorem toInt?_ofQuotient (low : 2 ^ (j + 52) ≤ m) (small : m < overflow) :
    ∃ n : Nat, 2 ^ (j + 52) ≤ n ∧
      (ofQuotient negative m 1).toInt? = some (if negative then -(n : Int) else n) := by
  rw [overflow_eq] at small
  obtain ⟨k, more, low, high⟩ := exists_bits low
  have fits := (not_iff_not.mpr (beyond_iff low high 970)).mp (Nat.not_le.mpr small)
  have power : 2 ^ (j + 52) ≤ 2 ^ (k + 52) := Nat.pow_le_pow_right (by decide) (by omega)
  rw [ofQuotient_one low high, maxExponent]
  by_cases full : roundQuotient m (2 ^ k) = 2 ^ 53
  · refine ⟨2 ^ 52 * 2 ^ (k + 1), ?_, ?_⟩
    · rw [← Nat.pow_add]
      exact Nat.pow_le_pow_right (by decide) (by omega)
    · simp only [full, if_true]
      rw [if_neg (by omega)]
      exact toInt?_finite_natCast negative (2 ^ 52) (k + 1)
  · refine ⟨roundQuotient m (2 ^ k) * 2 ^ k, ?_, ?_⟩
    · calc 2 ^ (j + 52) ≤ 2 ^ (k + 52) := power
        _ = 2 ^ 52 * 2 ^ k := by rw [← Nat.pow_add, Nat.add_comm]
        _ ≤ roundQuotient m (2 ^ k) * 2 ^ k :=
          Nat.mul_le_mul_right _ (roundQuotient_bounds low high).1
    · simp only [full, if_false]
      rw [if_neg (by omega)]
      exact toInt?_finite_natCast negative (roundQuotient m (2 ^ k)) k

end Magnitude

end Runbook.Binary64
