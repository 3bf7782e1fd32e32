import Runbook.CharSet
import Runbook.Text.Blank
/-! Tables of characters as text. A row is a hexadecimal number, a range such as `41-5A`, or a
range in steps such as `100-12E/2`; rows are separated by blanks. A row can be followed by the
number that goes with its first one, as in `41-5A>61`: the numbers after it go with those that
are as far from there. -/
namespace Runbook.Unicode

def hexDigit? (c : Char) : Option Nat :=
  if '0' ≤ c ∧ c ≤ '9' then some (c.toNat - '0'.toNat)
  else if 'A' ≤ c ∧ c ≤ 'F' then some (c.toNat - 'A'.toNat + 10)
  else if 'a' ≤ c ∧ c ≤ 'f' then some (c.toNat - 'a'.toNat + 10)
  else none

/-- The value of hexadecimal digits; other characters count for nothing. -/
def hexValue (digits : List Char) : Nat :=
  digits.foldl (fun n c => 16 * n + (hexDigit? c).getD 0) 0

structure Row where
  first : Nat
  last : Nat
  step : Nat
  target : Nat
  deriving DecidableEq, Repr

namespace Row

/-- The text behind a mark, where there is one. -/
def behind? (mark : Char) (s : List Char) : Option (List Char) :=
  match s.dropWhile (· ≠ mark) with
  | [] => none
  | _ :: rest => some rest

def number (s : List Char) : Nat :=
  hexValue (s.takeWhile fun c => c ≠ '-' ∧ c ≠ '/' ∧ c ≠ '>')

def read (s : List Char) : Row :=
  let first := number s
  { first
    last := ((behind? '-' s).map number).getD first
    step := ((behind? '/' s).map number).getD 1
    target := ((behind? '>' s).map number).getD first }

/-- The ranges of neighbouring numbers in a row. -/
def ranges (r : Row) : List (Nat × Nat) :=
  if r.step ≤ 1 then [(r.first, r.last)]
  else (List.range ((r.last - r.first) / r.step + 1)).map fun i =>
    (r.first + i * r.step, r.first + i * r.step)

/-- The numbers of a row, each with the one that goes with it. -/
def pairs (r : Row) : List (Nat × Nat) :=
  r.ranges.flatMap fun (first, last) =>
    (List.range (last - first + 1)).map fun i => (first + i, first + i - r.first + r.target)

end Row

def rows (text : String) : List Row := (Text.runs text.toList).map Row.read

/-- The characters of a table. -/
def set (text : String) : CharSet := .ofRanges ((rows text).flatMap Row.ranges)

/-- The pairs of a table. -/
def pairs (text : String) : List (Nat × Nat) := (rows text).flatMap Row.pairs

end Runbook.Unicode
