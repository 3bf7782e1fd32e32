import Runbook.Pattern.SetLayout
/-! What is laid out for a pattern, part after part. Laying out ends where there is no room. -/
namespace Runbook.Pattern

inductive Layout where
  | states (own : Tally)
  /-- The states of a set with characters that are not ASCII characters. -/
  | set (boxes : List Encoding.Box)
  | row (first second : Layout)
  | copies (count : Nat) (body : Layout)

namespace Layout

/-- Repeats a step, unless there is no room for more. -/
def repeatStep (step : Tally → Tally) : Nat → Tally → Tally
  | 0, t => t
  | count + 1, t => if t.isTooLarge then t else repeatStep step count (step t)

/-- What is there after a part has been laid out behind other states. -/
def lay (d : Direction) : Layout → Tally → Tally
  | states own, t => t + own
  | set boxes, t => SetLayout.lay d boxes t
  | row first second, t => second.lay d (first.lay d t)
  | copies count body, t => repeatStep (body.lay d) count t

def rows : List Layout → Layout
  | [] => states .none
  | [p] => p
  | p :: rest => row p (rows rest)

def ofSet (s : CharSet) : Layout :=
  if s.isAscii then states (.plain 1 + .switch s.ranges.length) else set (Encoding.ofSet s)

/-- A repetition of a body. -/
def times (body : Layout) (mayBeEmpty : Bool) (least : Nat) : Option Nat → Layout
  | none =>
    if 0 < least then row (copies least body) (states (.fork 2))
    else if mayBeEmpty then row body (states (.fork 2 + .fork 2 + .plain 1))
    else row (states (.fork 2)) body
  | some most =>
    let exactly := if least = 0 then states (.plain 1) else copies least body
    let perhaps := row (states (.fork 2)) body
    if least = most then exactly
    else if least = 0 ∧ most = 1 then row perhaps (states (.plain 1))
    else rows [exactly, states (.plain 1), copies (most - least) perhaps]

/-- Alternatives. The states where they part and meet come behind the second one. -/
def choice : List Layout → Layout
  | first :: second :: rest =>
    rows (first :: second :: states (.fork (rest.length + 2) + .plain 1) :: rest)
  | others => rows others

end Layout

end Runbook.Pattern
