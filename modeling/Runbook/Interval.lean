import Runbook.Number.Numeral
import Runbook.Text.Blank
/-! Lengths of time as control files give them: a whole number of milliseconds, or of the unit
after it. A length of `2 ^ 64` milliseconds or more is none. -/
namespace Runbook.Interval

/-- How many milliseconds a unit has. -/
def unit? (name : List Char) : Option Nat :=
  match String.ofList name with
  | "" | "ms" => some 1
  | "s" => some 1000
  | "m" => some 60000
  | "h" => some 3600000
  | "d" => some 86400000
  | _ => none

/-- The length in milliseconds. -/
def parse? (text : String) : Option Nat := do
  let s := Text.strip text.toList
  let number ← (Numeral.natural Numeral.maxUnsigned64 (s.takeWhile Numeral.isDigit)).toOption
  let factor ← unit? (Text.strip (s.dropWhile Numeral.isDigit))
  if number * factor ≤ Numeral.maxUnsigned64 then some (number * factor) else none

end Runbook.Interval
