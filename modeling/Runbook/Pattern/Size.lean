import Runbook.Pattern.Basic
import Runbook.Pattern.Layout
import Runbook.Pattern.WordLayout
import Runbook.Text.Utf8
/-! How large patterns are. A pattern is read forwards to find where it matches, and backwards to
find where the match begins, and is laid out for either way. Counted repetitions are laid out as
often as they are counted. -/
namespace Runbook.Pattern

/-- The bytes of a literal in the order in which they are read. -/
def literalBytes? (d : Direction) : Pattern → Option (List UInt8)
  | literal s =>
    let bytes := (String.ofList s).toUTF8.toList
    some (if d = .forwards then bytes else bytes.reverse)
  | _ => none

/-- The least number of bytes of a match. Where a part has no match at all, none is known. -/
def leastLength? : Pattern → Option Nat
  | empty | place _ => some 0
  | literal s => some (String.ofList s).utf8ByteSize
  | one set _ => (set.edges.head?).map fun n => (Char.ofNat n).utf8Size
  | both p q => do return (← p.leastLength?) + (← q.leastLength?)
  | either p q => do return min (← p.leastLength?) (← q.leastLength?)
  | times body least _ _ => do return least * (← body.leastLength?)
  | group body => body.leastLength?

/-- Whether a match may well be of no character. -/
def mayBeEmpty (p : Pattern) : Bool := p.leastLength?.getD 0 = 0

mutual

def layout (d : Direction) : Pattern → Layout
  | empty | place _ => .states (.plain 1)
  | literal s => .states (.plain (String.ofList s).utf8ByteSize)
  | one set _ => .ofSet set
  | both p q =>
    match d with
    | .forwards => .row (layout d p) (layout d q)
    | .backwards => .row (layout d q) (layout d p)
  | either p q =>
    match (p :: branches q).mapM (literalBytes? d) with
    | some words => .states (WordLayout.tally words)
    | none => .choice (layout d p :: branchLayouts d q)
  | times body least most _ => .times (layout d body) body.mayBeEmpty least most
  | group body =>
    match d with
    | .forwards => .rows [.states (.plain 1), layout d body, .states (.plain 1)]
    | .backwards => layout d body
termination_by p => (sizeOf p, 0)

/-- The layouts of the alternatives of a pattern. -/
def branchLayouts (d : Direction) : Pattern → List Layout
  | either p q => layout d p :: branchLayouts d q
  | p => [layout d p]
termination_by p => (sizeOf p, 1)

end

/-- Whether matches can only begin at the start of the text, or end at its end. -/
def isBound (d : Direction) : Pattern → Bool
  | place kind => kind = if d = .forwards then .textStart else .textEnd
  | group body => body.isBound d
  | times body least _ _ => 0 < least && body.isBound d
  | both p q =>
    match d with
    | .forwards => p.isBound d || (p.isWidthless && q.isBound d)
    | .backwards => q.isBound d || (q.isWidthless && p.isBound d)
  | either p q => p.isBound d && q.isBound d
  | empty | literal _ | one .. => false

/-- The states that skip what is before a match, where there may be something. -/
def skipTally (d : Direction) (p : Pattern) : Tally :=
  if p.isBound d then .plain 1 else .fork 2 + .plain 1 + .switch 1

/-- A pattern with the states around it, which forwards note where the match is. -/
def tally (d : Direction) (p : Pattern) : Tally :=
  match d with
  | .forwards => (p.layout d).lay d (p.skipTally d + .plain 1) + .plain 2
  | .backwards => (p.layout d).lay d (p.skipTally d) + .plain 1

/-- Whether a pattern is a long list of words, which is not laid out at all. -/
def isWordList (p : Pattern) : Bool :=
  let words := branches p
  3000 ≤ words.length && words.all fun w => (literalBytes? .forwards w).isSome

def isTooLarge (p : Pattern) : Bool :=
  !p.isWordList && ((p.tally .forwards).isTooLarge || (p.tally .backwards).isTooLarge)

end Runbook.Pattern
