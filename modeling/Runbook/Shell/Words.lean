import Runbook.Text.Blank
/-! The words of a line. Blanks divide words. Between single quotes every character stands for
itself; between double quotes and outside of quotes a backslash takes away the meaning of the
character after it. Quotes can begin and end inside a word, and an empty pair is a word. -/
namespace Runbook.Shell

inductive Quotes where
  | none
  | single
  | double
  deriving DecidableEq, Repr

/-- One more character on a word that is kept with its last character first; a word begins with
its first one. -/
def push (word? : Option (List Char)) (c : Char) : Option (List Char) :=
  some (c :: word?.getD [])

/-- The word that ends here, if one has begun. -/
def ended (word? : Option (List Char)) : List (List Char) := (word?.map List.reverse).toList

/-- The words to come, of which one may have begun. There are none when a quote stays open. -/
def scan : Quotes → Option (List Char) → List Char → Option (List (List Char))
  | .none, word?, [] => some (ended word?)
  | .none, word?, ['\\'] => some (ended word?)
  | .none, word?, '\\' :: c :: rest => scan .none (push word? c) rest
  | .none, word?, c :: rest =>
    if c = '\'' then scan .single (some (word?.getD [])) rest
    else if c = '"' then scan .double (some (word?.getD [])) rest
    else if Text.isBlank c then (scan .none none rest).map (ended word? ++ ·)
    else scan .none (push word? c) rest
  | .single, _, [] => none
  | .single, word?, c :: rest =>
    if c = '\'' then scan .none word? rest else scan .single (push word? c) rest
  | .double, _, [] => none
  | .double, _, ['\\'] => none
  | .double, word?, '\\' :: c :: rest => scan .double (push word? c) rest
  | .double, word?, c :: rest =>
    if c = '"' then scan .none word? rest else scan .double (push word? c) rest

def words? (line : List Char) : Option (List (List Char)) := scan .none none line

/-- The words of a line, unless a quote in it stays open. -/
def splitWords (line : String) : Option (List String) :=
  (words? line.toList).map fun ws => ws.map String.ofList

/-- What is said of a line with an open quote. -/
def unterminated : String := "Unterminated quoted string"

end Runbook.Shell
