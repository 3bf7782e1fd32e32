import Runbook.Unicode.Property
/-! Text as diagnostics quote it: in double quotes, with every character spelled so that it can
be seen. A quote and a backslash take a backslash, NUL, tab, line feed and carriage return have
a letter, and what is invisible or extends the character before it is named by its number. -/
namespace Runbook.Text

open Unicode

/-- The characters without a form of their own: controls, private and unassigned ones, spaces
other than the plain one, what is not shown by default, and the marks that extend the character
before them. -/
def hidden : CharSet :=
  .unions [
    Category.union .seventeen [.control, .format, .privateUse, .lineSeparator, .paragraphSeparator],
    Category.set .seventeen .unassigned,
    Category.set .seventeen .spaceSeparator \ .singleton ' ',
    Property.otherIgnorable,
    Property.extending .seventeen \ Category.set .seventeen .modifierLetter]

/-- The number of a character in lower-case hexadecimal digits, between braces. -/
def spellNumber (c : Char) : List Char :=
  ['\\', 'u', '\x7b'] ++ Nat.toDigits 16 c.toNat ++ ['\x7d']

def spell (c : Char) : List Char :=
  if c = '\x00' then ['\\', '0']
  else if c = '\t' then ['\\', 't']
  else if c = '\n' then ['\\', 'n']
  else if c = '\r' then ['\\', 'r']
  else if c = '"' then ['\\', '"']
  else if c = '\\' then ['\\', '\\']
  else if hidden.contains c then spellNumber c
  else [c]

def quoted (s : String) : String :=
  String.ofList (['"'] ++ s.toList.flatMap spell ++ ['"'])

/-- The quoted texts between brackets. -/
def quotedList (l : List String) : String :=
  "[" ++ String.intercalate ", " (l.map quoted) ++ "]"

end Runbook.Text
