import Runbook.Number.Binary64
import Runbook.Number.Numeral
/-! Decimal numerals with a point and a power of ten, and the floating-point number nearest to
each. The words `inf`, `infinity` and `nan` are numerals too, in any mixture of cases. -/
namespace Runbook

/-- The value `significand * 10 ^ exponent`, with a sign. -/
structure Decimal where
  negative : Bool
  significand : Nat
  exponent : Int
  deriving DecidableEq, Repr

namespace Decimal

open Numeral (isDigit)

def ofDigits (s : List Char) : Nat :=
  s.foldl (fun n c => 10 * n + (Numeral.digit? c).getD 0) 0

/-- The digits after the power-of-ten letter: a sign may precede them, and there is at least one. -/
def power? : List Char → Option Int
  | '-' :: rest => (unsigned? rest).map fun n => -(n : Int)
  | '+' :: rest => (unsigned? rest).map fun n => (n : Int)
  | rest => (unsigned? rest).map fun n => (n : Int)
where
  unsigned? (s : List Char) : Option Nat :=
    if !s.isEmpty && s.all isDigit then some (ofDigits s) else none

/-- What follows the last digit: nothing, or the letter `e` or `E` and a power of ten. -/
def tail? : List Char → Option Int
  | [] => some 0
  | c :: rest => if c = 'e' ∨ c = 'E' then power? rest else none

/-- Digits with at most one point among or beside them, then a power of ten. -/
def magnitude? (s : List Char) : Option (Nat × Int) :=
  let whole := s.takeWhile isDigit
  let rest := s.dropWhile isDigit
  let (fraction, rest) := match rest with
    | '.' :: r => (r.takeWhile isDigit, r.dropWhile isDigit)
    | r => ([], r)
  if whole.isEmpty && fraction.isEmpty then none
  else (tail? rest).map fun e => (ofDigits (whole ++ fraction), e - fraction.length)

/-- How many digits a number has; zero has none. -/
def digitCount (n : Nat) : Nat := if n = 0 then 0 else (Nat.toDigits 10 n).length

/-- The nearest floating-point number. A value of 310 digits or more before the point is out of
range, and one with 330 zeros after the point is nearer to zero than to any other number. -/
def toBinary64 (d : Decimal) : Binary64 :=
  let magnitude : Int := digitCount d.significand + d.exponent
  if d.significand = 0 then .zero d.negative
  else if 310 < magnitude then .infinite d.negative
  else if magnitude < -330 then .zero d.negative
  else if 0 ≤ d.exponent then
    .ofQuotient d.negative (d.significand * tenTo d.exponent.toNat) 1
  else .ofQuotient d.negative d.significand (tenTo (-d.exponent).toNat)

end Decimal

namespace Binary64

def unsigned? (negative : Bool) (s : List Char) : Option Binary64 :=
  match Decimal.magnitude? s with
  | some (m, e) => some (Decimal.toBinary64 ⟨negative, m, e⟩)
  | none =>
    let word := String.ofList (s.map Char.toLower)
    if word = "inf" ∨ word = "infinity" then some (.infinite negative)
    else if word = "nan" then some .nan
    else none

def read? (s : String) : Option Binary64 :=
  match s.toList with
  | '-' :: rest => unsigned? true rest
  | '+' :: rest => unsigned? false rest
  | rest => unsigned? false rest

end Binary64

end Runbook
