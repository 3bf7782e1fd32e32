import Runbook.Number.Power
/-! Decimal numerals of bounded integers. Digits are ASCII digits; a plus sign is allowed, and a
minus sign only where negative numbers are in range. Reading goes from left to right and stops
at the first fault. -/
namespace Runbook

inductive NumeralFault where
  | empty
  | invalidDigit
  | tooLarge
  | tooSmall
  deriving DecidableEq, Repr

def NumeralFault.message : NumeralFault → String
  | .empty => "cannot parse integer from empty string"
  | .invalidDigit => "invalid digit found in string"
  | .tooLarge => "number too large to fit in target type"
  | .tooSmall => "number too small to fit in target type"

namespace Numeral

def digit? (c : Char) : Option Nat :=
  if '0' ≤ c ∧ c ≤ '9' then some (c.toNat - '0'.toNat) else none

def isDigit (c : Char) : Bool := (digit? c).isSome

/-- Appends digits to a number that must stay at most `bound`. -/
def extend (bound : Nat) (fault : NumeralFault) : Nat → List Char → Except NumeralFault Nat
  | n, [] => .ok n
  | n, c :: rest =>
    match digit? c with
    | none => .error .invalidDigit
    | some d => if 10 * n + d ≤ bound then extend bound fault (10 * n + d) rest else .error fault

/-- At least one digit, and nothing else. -/
def digits (bound : Nat) (fault : NumeralFault) (s : List Char) : Except NumeralFault Nat :=
  if s.isEmpty then .error .invalidDigit else extend bound fault 0 s

/-- A number of at most `bound`, without a sign or with a plus sign. -/
def natural (bound : Nat) : List Char → Except NumeralFault Nat
  | [] => .error .empty
  | '+' :: rest => digits bound .tooLarge rest
  | s => digits bound .tooLarge s

def maxUnsigned16 : Nat := UInt16.size - 1
def maxUnsigned64 : Nat := UInt64.size - 1

def unsigned64? (s : String) : Option Nat := (natural maxUnsigned64 s.toList).toOption

/-- A number from `-2^63` to `2^63 - 1`, with an optional sign. -/
def integer : List Char → Except NumeralFault Int
  | [] => .error .empty
  | '-' :: rest => (digits (twoTo 63) .tooSmall rest).map fun n => -(n : Int)
  | s => (natural (twoTo 63 - 1) s).map fun n => (n : Int)

def integer64? (s : String) : Option Int64 := (integer s.toList).toOption.map Int64.ofInt

end Numeral

end Runbook
