import Runbook.Number.Total
import Runbook.Pattern.Place
/-! Patterns of text, and how they are built of each other. -/
namespace Runbook

inductive Pattern where
  | empty
  /-- The characters one after the other. -/
  | literal (text : List Char)
  /-- One character of a set. A set that is written as one of ASCII characters is told apart from
  one that only happens to have no others. -/
  | one (set : CharSet) (asciiOnly : Bool)
  | place (kind : Place)
  | both (first second : Pattern)
  | either (left right : Pattern)
  /-- What prefers short matches matches in the same places. -/
  | times (body : Pattern) (least : Nat) (most : Option Nat) (prefersShort : Bool)
  | group (body : Pattern)
  deriving DecidableEq

namespace Pattern

/-- Whether places of words are asked for, and words are not those of ASCII characters alone. -/
def hasUnicodeWordPlace : Pattern → Bool
  | place (.word _ ascii) => !ascii
  | empty | literal _ | one .. | place _ => false
  | both p q | either p q => p.hasUnicodeWordPlace || q.hasUnicodeWordPlace
  | times body _ _ _ | group body => body.hasUnicodeWordPlace

/-- One character of a set, which may be a single one. -/
def oneOf (set : CharSet) (asciiOnly : Bool) : Pattern :=
  match set.ranges with
  | [] => one .empty true
  | [(first, last)] => if first = last then literal [Char.ofNat first] else one set asciiOnly
  | _ => one set asciiOnly

/-- A part in front of a pattern; neighbouring literals become one. -/
def glue : Pattern → Pattern → Pattern
  | p, empty => p
  | literal s, literal t => literal (s ++ t)
  | literal s, both (literal t) rest => both (literal (s ++ t)) rest
  | p, q => both p q

/-- One pattern behind the other, as one row of parts. -/
def append : Pattern → Pattern → Pattern
  | empty, q => q
  | both first rest, q => glue first (append rest q)
  | p, q => glue p q

/-- The alternatives of a pattern. -/
def branches : Pattern → List Pattern
  | either left right => left :: branches right
  | p => [p]

def singleton? : Pattern → Option CharSet
  | literal [c] => some (.singleton c)
  | _ => none

def set? : Pattern → Option CharSet
  | one set _ => some set
  | _ => none

def alternatives : List Pattern → Pattern
  | [] => one .empty true
  | [p] => p
  | p :: rest => either p (alternatives rest)

def hasGroup : Pattern → Bool
  | group _ => true
  | both p q | either p q => p.hasGroup || q.hasGroup
  | times body _ _ _ => body.hasGroup
  | _ => false

/-- The parts that a pattern has one behind the other. -/
def row : Pattern → List Pattern
  | both p q => p :: row q
  | p => [p]

def ofRow : List Pattern → Pattern
  | [] => empty
  | [p] => p
  | p :: rest => both p (ofRow rest)

/-- The parts that two rows begin with. Each group is a group of its own. -/
def commonFront : List Pattern → List Pattern → List Pattern
  | p :: ps, q :: qs => if p = q && !p.hasGroup then p :: commonFront ps qs else []
  | _, _ => []

/-- What several rows of parts begin with, and how each of them goes on. -/
def sharedFront? (patterns : List Pattern) : Option (List Pattern × List Pattern) :=
  match patterns.map row with
  | first :: rest =>
    let front := rest.foldl commonFront first
    if front.isEmpty || (first :: rest).any (·.length < 2) then none
    else some (front, (first :: rest).map fun r => ofRow (r.drop front.length))
  | [] => none

/-- How many parts a pattern has. -/
def weight : Pattern → Nat
  | both p q | either p q => p.weight + q.weight
  | times body _ _ _ | group body => body.weight + 1
  | _ => 1

/-- Any of some patterns. Where all of them are single characters, or all of them sets, one set
stands for them; what they all begin with stands before the rest. -/
def choiceWithin : Nat → List Pattern → Pattern
  | 0, patterns => alternatives patterns
  | bound + 1, patterns =>
    match patterns.flatMap branches with
    | [p] => p
    | all =>
      match (all.mapM singleton?).or (all.mapM set?) with
      | some sets => oneOf (.unions sets) false
      | none =>
        match sharedFront? all with
        | some (front, rests) => append (ofRow front) (choiceWithin bound rests)
        | none => alternatives all

/-- Any of some patterns. Every part that is put before the others makes these shorter. -/
def choice : List Pattern → Pattern
  | [p] => p
  | patterns => choiceWithin (total (patterns.map weight) + 1) patterns

/-- Whether all matches are of no character. -/
def isWidthless : Pattern → Bool
  | empty | place _ => true
  | literal _ | one .. => false
  | both p q | either p q => p.isWidthless && q.isWidthless
  | times body _ _ _ | group body => body.isWidthless

/-- A pattern so many times. To repeat what has no width more than once is to have it once. -/
def repeated (body : Pattern) (least : Nat) (most : Option Nat) (prefersShort : Bool) : Pattern :=
  let (least, most) :=
    if body.isWidthless then (min least 1, some (min (most.getD 1) 1)) else (least, most)
  if most = some 0 then empty
  else if least = 1 ∧ most = some 1 then body
  else times body least most prefersShort

end Pattern

end Runbook
