import Runbook.Text.Utf8
/-! Text without the sequences that control a terminal. A sequence begins with an escape
character, and what comes next says what kind of sequence it is and where it ends. Within any of
them an escape begins another one, and a cancelling character ends it. -/
namespace Runbook.Text.Terminal

/-- What a character is part of. -/
inductive Mode where
  | text
  | escape
  /-- Behind an escape and a character that selects something. -/
  | selection
  /-- A sequence with numbers, up to a letter. -/
  | control
  /-- The title of a window, up to a bell. -/
  | title
  /-- What is in front of a device's string: nothing, numbers, or more than numbers. -/
  | device
  | deviceNumbers
  | deviceMore
  /-- A string up to a byte that ends it. -/
  | body
  deriving DecidableEq, Repr

def isEscape (c : Char) : Bool := c = '\x1b'

def isCancel (c : Char) : Bool := c = '\x18' || c = '\x1a'

/-- Whether a character is part of a text that is shown: blanks other than vertical tabs are, and
other control characters are not. -/
def isShown (c : Char) : Bool :=
  if c.toNat < 0x20 then c = '\t' || c = '\n' || c = '\x0c' || c = '\r' else c ≠ '\x7f'

/-- Whether one of the bytes of a character ends a string. -/
def endsBody (c : Char) : Bool := (String.utf8EncodeChar c).contains 0x9C

def within (first last c : Char) : Bool := first ≤ c && c ≤ last

namespace Mode

/-- What is begun by a character behind an escape. -/
def begun (c : Char) : Mode :=
  if within ' ' '/' c then selection
  else if c = '[' then control
  else if c = ']' then title
  else if c = 'P' then device
  else if c = 'X' || c = '^' || c = '_' then body
  else if within '0' '~' c then text
  else escape

/-- What is there behind a character of a sequence. -/
def next (m : Mode) (c : Char) : Mode :=
  if isEscape c then escape
  else if isCancel c then text
  else
    match m with
    | text => text
    | escape => begun c
    | selection => if within '0' '~' c then text else selection
    | control => if within '@' '~' c then text else control
    | title => if c = '\x07' then text else title
    | device =>
      if within '@' '~' c then body
      else if within '0' '?' c then deviceNumbers
      else if within ' ' '/' c then deviceMore
      else device
    | deviceNumbers =>
      if within '<' '~' c then body else if within ' ' '/' c then deviceMore else deviceNumbers
    | deviceMore => if within '0' '~' c then body else deviceMore
    | body => if endsBody c then text else body

/-- Whether line breaks and tabs in a sequence are shown. -/
def letsThrough : Mode → Bool
  | escape | selection | control => true
  | text | title | device | deviceNumbers | deviceMore | body => false

end Mode

/-- The shown characters. Behind a line break or tab that a sequence lets through all is text up to
the next control character. There the sequence goes on, unless a character that is not an ASCII
character was among the text. -/
def shown (m : Mode) (suspended : Bool) : List Char → List Char
  | [] => []
  | c :: rest =>
    if m = .text || suspended then
      if isShown c then c :: shown (if c.toNat < 0x80 then m else .text) suspended rest
      else shown (m.next c) false rest
    else if m.letsThrough && isShown c && c.toNat < 0x20 then c :: shown m true rest
    else shown (m.next c) false rest

/-- A text as it is written where there is no terminal. -/
def strip (s : String) : String := String.ofList (shown .text false s.toList)

end Runbook.Text.Terminal
