import Runbook.Number.Power
/-! Floating-point numbers of 64 bits as exact values: a finite number is `significand *
2 ^ exponent` with a sign. Rounding is to the nearest number, a tie to the even significand. -/
namespace Runbook

inductive Binary64 where
  | nan
  | infinite (negative : Bool)
  | finite (negative : Bool) (significand : Nat) (exponent : Int)
  deriving DecidableEq, Repr

namespace Binary64

/-- Significands have at most 53 bits. -/
def maxSignificand : Nat := twoTo 53 - 1

/-- The exponent of the smallest number, and of all numbers below `2 ^ (-1022)`. -/
def minExponent : Int := -1074

def maxExponent : Int := 971

def zero (negative : Bool) : Binary64 := .finite negative 0 minExponent

/-- A quotient rounded to a whole number, a tie to the even one. -/
def roundQuotient (num den : Nat) : Nat :=
  let q := num / den
  let r := num % den
  if den < 2 * r then q + 1
  else if 2 * r = den then q + q % 2
  else q

/-- `num / den` in units of `2 ^ e`, as a quotient of whole numbers. -/
def inUnits (num den : Nat) (e : Int) : Nat × Nat :=
  if 0 ≤ e then (num, den * twoTo e.toNat) else (num * twoTo (-e).toNat, den)

/-- The exponent at which `num / den` has a significand of 53 bits, or the least one. -/
def exponentFor (num den : Nat) : Int :=
  let guess : Int := (num.log2 : Int) - (den.log2 : Int) - 52
  let (n, d) := inUnits num den guess
  let exact := if n / d < twoTo 52 then guess - 1 else guess
  max exact minExponent

/-- The number nearest to `num / den`. -/
def ofQuotient (negative : Bool) (num den : Nat) : Binary64 :=
  if num = 0 then zero negative
  else
    let e := exponentFor num den
    let (n, d) := inUnits num den e
    let m := roundQuotient n d
    let (m, e) := if maxSignificand < m then (m / 2, e + 1) else (m, e)
    if maxExponent < e then .infinite negative else .finite negative m e

def ofInt (i : Int) : Binary64 := ofQuotient (i < 0) i.natAbs 1

/-- The whole number that a finite number equals, where it equals one. -/
def toInt? : Binary64 → Option Int
  | .finite negative m e =>
    let magnitude : Option Nat :=
      if 0 ≤ e then some (m * twoTo e.toNat)
      else if m % twoTo (-e).toNat = 0 then some (m / twoTo (-e).toNat) else none
    magnitude.map fun n => if negative then -(n : Int) else n
  | _ => none

/-- Numbers in the order of their values; zero is the same with either sign. -/
def rank : Binary64 → Int
  | .nan => 0
  | .infinite negative => signed negative (twoTo 53 * 2048)
  | .finite negative m e => signed negative (m + twoTo 53 * (e - minExponent).toNat)
where
  signed (negative : Bool) (n : Nat) : Int := if negative then -(n : Int) else n

/-- A whole number moved to the nearer end of the 64-bit range when it is outside. -/
def clamp64 (i : Int) : Int64 := Int64.ofInt (max Int64.minValue.toInt (min Int64.maxValue.toInt i))

end Binary64

end Runbook
