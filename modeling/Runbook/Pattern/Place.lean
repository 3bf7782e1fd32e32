import Runbook.Unicode.Property
/-! Places in a text, judged by the characters before and after them. -/
namespace Runbook

/-- How a place lies to the words of a text. -/
inductive WordPlace where
  /-- Where a word begins or ends. -/
  | edge
  /-- Anywhere else. -/
  | inner
  | start
  | finish
  /-- Where no word goes on from before. -/
  | startHalf
  /-- Where no word goes on behind. -/
  | endHalf
  deriving DecidableEq, Repr

/-- Judges a place by whether words reach it from before and from behind. -/
def WordPlace.holds (before after : Bool) : WordPlace → Bool
  | .edge => before != after
  | .inner => before == after
  | .start => !before && after
  | .finish => before && !after
  | .startHalf => !before
  | .endHalf => !after

inductive Place where
  | textStart
  | textEnd
  /-- With `crlf`, carriage returns end lines too, and a pair with a line feed ends one line. -/
  | lineStart (crlf : Bool)
  | lineEnd (crlf : Bool)
  | word (place : WordPlace) (ascii : Bool)
  deriving DecidableEq, Repr

namespace Place

def asciiWord : CharSet := Unicode.set "30-39 41-5A 5F 61-7A"

def wordSet (ascii : Bool) : CharSet := if ascii then asciiWord else Unicode.Property.word

/-- Whether a place is one of its kind, between the characters before and after it. -/
def holds (before after : Option Char) : Place → Bool
  | textStart => before.isNone
  | textEnd => after.isNone
  | lineStart false => before.isNone || before == some '\n'
  | lineEnd false => after.isNone || after == some '\n'
  | lineStart true =>
    before.isNone || before == some '\n' || (before == some '\r' && after != some '\n')
  | lineEnd true =>
    after.isNone || after == some '\r' || (after == some '\n' && before != some '\r')
  | word place ascii =>
    place.holds (before.any (wordSet ascii).contains) (after.any (wordSet ascii).contains)

end Place

end Runbook
