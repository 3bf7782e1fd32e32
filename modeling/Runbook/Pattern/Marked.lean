import Runbook.Pattern.Basic
/-! How far a text can have got in a pattern. The text is read once, and the pattern carries marks
for all the ways in which what is read so far can match; repetitions are unrolled as far as the
text has got in them. -/
namespace Runbook

/-- A place in a text, by the characters before and behind it. -/
structure Pattern.Surroundings where
  before : Option Char
  after : Option Char

/-- A pattern with marks. -/
inductive Pattern.Marked where
  /-- Nothing of the pattern is read. -/
  | fresh (p : Pattern)
  /-- What is left to read of the text, for each way to have read some of it. -/
  | literal (text : List Char) (rests : List (List Char))
  | one (set : CharSet) (read : Bool)
  | both (first second : Marked)
  | either (left right : Marked)
  /-- Once or more often. -/
  | loop (body : Marked)

namespace Pattern

/-- Whether the pattern matches between the characters, without reading any. -/
def isEmptyAt (s : Surroundings) : Pattern → Bool
  | empty => true
  | literal text => text.isEmpty
  | one .. => false
  | place kind => kind.holds s.before s.after
  | both p q => p.isEmptyAt s && q.isEmptyAt s
  | either p q => p.isEmptyAt s || q.isEmptyAt s
  | times body least _ _ => least = 0 || body.isEmptyAt s
  | group body => body.isEmptyAt s

/-- No more repetitions need to be counted than there are places: beyond that, one of them is
empty and can be left out. -/
def bounded (places : Nat) : Pattern → Pattern
  | both p q => both (p.bounded places) (q.bounded places)
  | either p q => either (p.bounded places) (q.bounded places)
  | times body least most prefersShort =>
    let fewest := min least places
    times (body.bounded places) fewest (most.map fun m => fewest + min (m - least) places)
      prefersShort
  | group body => group (body.bounded places)
  | p => p

namespace Marked

/-- Whether a match can end at a place: a mark is at the end, or gets there from the start without
reading, where there is one. -/
def atEnd (s : Surroundings) (start : Bool) : Marked → Bool
  | fresh p => start && p.isEmptyAt s
  | literal text rests => start && text.isEmpty || rests.any List.isEmpty
  | one _ read => read
  | both p q => q.atEnd s (p.atEnd s start)
  | either p q => p.atEnd s start || q.atEnd s start
  | loop body => body.atEnd s start

def perhaps (m : Marked) : Marked := either (fresh .empty) m

/-- At most so often, where the first time is begun and the others are begun as well if it can be
empty. -/
def beginUpTo (first : Marked) (isEmpty : Bool) (body : Pattern) : Nat → Marked
  | 0 => fresh .empty
  | count + 1 =>
    perhaps (both first (if isEmpty then beginUpTo first isEmpty body count
      else fresh (times body 0 (some count) false)))

/-- The same at least so often, and at most so many times more. -/
def beginTimes (first : Marked) (isEmpty : Bool) (body : Pattern) (more : Option Nat) :
    Nat → Marked
  | 0 =>
    match more with
    | some count => beginUpTo first isEmpty body count
    | none => perhaps (loop first)
  | least + 1 =>
    if least = 0 ∧ more = none then loop first
    else both first (if isEmpty then beginTimes first isEmpty body more least
      else fresh (times body least (more.map (least + ·)) false))

/-- A pattern of which the first character is read. -/
def begin (s : Surroundings) (c : Char) : Pattern → Marked
  | .literal text => literal text (if text.head? = some c then [text.tail] else [])
  | .one set _ => one set (set.contains c)
  | .both p q => both (begin s c p) (if p.isEmptyAt s then begin s c q else fresh q)
  | .either p q => either (begin s c p) (begin s c q)
  | .times body least most _ =>
    beginTimes (begin s c body) (body.isEmptyAt s) body (most.map (· - least)) least
  | .group body => begin s c body
  | p => fresh p

/-- Reads the next character, from all marks and from the start, where there is one. -/
def step (s : Surroundings) (c : Char) (start : Bool) : Marked → Marked
  | fresh p => if start then begin s c p else fresh p
  | literal text rests =>
    let rests := if start then text :: rests else rests
    literal text (rests.filterMap fun r => if r.head? = some c then some r.tail else none)
  | one set _ => one set (start && set.contains c)
  | both p q => both (p.step s c start) (q.step s c (p.atEnd s start))
  | either p q => either (p.step s c start) (q.step s c start)
  | loop body => loop (body.step s c (start || body.atEnd s start))

/-- Whether a match ends somewhere in the rest of a text, if it may start anywhere. -/
def endsIn (m : Marked) (before : Option Char) : List Char → Bool
  | [] => m.atEnd ⟨before, none⟩ true
  | c :: rest =>
    let s : Surroundings := ⟨before, some c⟩
    m.atEnd s true || (m.step s c true).endsIn (some c) rest

end Marked

/-- Whether the pattern matches somewhere in the text. -/
def occursIn (p : Pattern) (text : String) : Bool :=
  (Marked.fresh (p.bounded (text.length + 1))).endsIn none text.toList

end Pattern

end Runbook
