import Runbook.Table
import Runbook.Text.Lines
/-! Control files: named entries, one a line. Lines that begin with `#` or `!` are remarks; a
line that ends with an odd number of backslashes goes on in the next one, without the blanks
before that. The name ends at the first equals sign, colon or blank that no backslash guards. -/
namespace Runbook

abbrev ControlFile := Table String

namespace ControlFile

def isRemark (line : List Char) : Bool :=
  match line with
  | [] => true
  | c :: _ => c == '#' || c == '!'

/-- Whether a line ends with an odd number of backslashes. -/
def continues (line : List Char) : Bool :=
  (line.reverse.takeWhile (· = '\\')).length % 2 == 1

/-- Lines with their continuations, less the blank ones and the remarks. `open?` is the part
of a line whose continuation is still to come. -/
def joinLines (open? : Option (List Char)) : List (List Char) → List (List Char)
  | [] => open?.toList
  | raw :: rest =>
    let line := Text.dropBlanks raw
    if open?.isNone && isRemark line then joinLines none rest
    else if continues line then joinLines (some (open?.getD [] ++ line.dropLast)) rest
    else (open?.getD [] ++ line) :: joinLines none rest

def logicalLines (text : List Char) : List (List Char) :=
  joinLines none (Text.lineList text)

def endsName (c : Char) : Bool := c == '=' || c == ':' || Text.isBlank c

/-- The name at the front of a line as it is written, and the rest of the line. -/
def splitName : List Char → List Char × List Char
  | [] => ([], [])
  | ['\\'] => (['\\'], [])
  | '\\' :: c :: rest => ('\\' :: c :: (splitName rest).1, (splitName rest).2)
  | c :: rest =>
    if endsName c then ([], c :: rest) else (c :: (splitName rest).1, (splitName rest).2)

/-- What follows the name, less the blanks and the one sign that divide the two. -/
def dropSeparator (s : List Char) : List Char :=
  match Text.dropBlanks s with
  | '=' :: rest => Text.dropBlanks rest
  | ':' :: rest => Text.dropBlanks rest
  | rest => rest

/-- A backslash stands for nothing, and takes away the meaning of the character after it or,
before `n`, `t` and `r`, makes it a control character. -/
def unescape : List Char → List Char
  | [] => []
  | ['\\'] => []
  | '\\' :: c :: rest =>
    (if c = 'n' then '\n' else if c = 't' then '\t' else if c = 'r' then '\r' else c)
      :: unescape rest
  | c :: rest => c :: unescape rest

/-- The entry of a line, where it has a name. -/
def entry? (line : List Char) : Option (String × String) :=
  let (name, rest) := splitName line
  if name.isEmpty then none
  else some (String.ofList (unescape name), String.ofList (unescape (dropSeparator rest)))

/-- The last definition of a name counts, in the place of its first one. -/
def parse (text : String) : ControlFile :=
  Table.ofList ((logicalLines text.toList).filterMap entry?)

end ControlFile

end Runbook
