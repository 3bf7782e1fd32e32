import Runbook.Number.Numeral
import Runbook.Text.Blank
/-! Times of day, written `hour:minute` with or without `:second`, and the wait from one to a
later one of the same day. Second 60 is a leap second: it is kept as a second that follows
second 59 within the same minute. -/
namespace Runbook

structure TimeOfDay where
  hour : Nat
  minute : Nat
  second : Nat
  /-- A billion in a leap second, else less. -/
  nanosecond : Nat
  deriving DecidableEq, Repr

namespace TimeOfDay

/-- One or two digits after any blanks, as a number, and the rest. -/
def field? (s : List Char) : Option (Nat × List Char) :=
  match Text.dropBlanks s with
  | [] => none
  | c :: rest =>
    match Numeral.digit? c, rest with
    | none, _ => none
    | some a, [] => some (a, [])
    | some a, d :: after =>
      match Numeral.digit? d with
      | some b => some (10 * a + b, after)
      | none => some (a, rest)

/-- The field after a colon. -/
def next? : List Char → Option (Nat × List Char)
  | ':' :: rest => field? rest
  | _ => none

def ofFields? (hour minute second : Nat) : Option TimeOfDay :=
  if hour ≤ 23 ∧ minute ≤ 59 then
    if second ≤ 59 then some ⟨hour, minute, second, 0⟩
    else if second = 60 then some ⟨hour, minute, 59, 1000000000⟩
    else none
  else none

def parse? (text : String) : Option TimeOfDay := do
  let (hour, rest) ← field? (Text.strip text.toList)
  let (minute, rest) ← next? rest
  if rest.isEmpty then ofFields? hour minute 0
  else
    let (second, rest) ← next? rest
    if rest.isEmpty then ofFields? hour minute second else none

def seconds (t : TimeOfDay) : Nat := (t.hour * 60 + t.minute) * 60 + t.second

def after (t now : TimeOfDay) : Bool :=
  now.seconds < t.seconds || (now.seconds == t.seconds && now.nanosecond < t.nanosecond)

/-- Milliseconds from `now` until `target`; none when `target` is not later. A leap second that
has begun is counted in full. -/
def wait (target now : TimeOfDay) : Nat :=
  if target.after now then
    let leap : Int := if now.seconds < target.seconds ∧ 1000000000 ≤ now.nanosecond then 1 else 0
    let whole : Int := target.seconds - now.seconds + leap
    let part : Int := target.nanosecond - now.nanosecond
    ((whole * 1000000000 + part) / 1000000).toNat
  else 0

end TimeOfDay

end Runbook
