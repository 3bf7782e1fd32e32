import Runbook.Table
import Runbook.Text.Blank
import Runbook.Text.Utf8
import Runbook.Unicode.Property
/-! Files of environment variables: `name=value` on each line, with quotes, escapes, remarks and
references to other variables. What is set already stays, and reading ends at the first fault. -/
namespace Runbook.EnvFile

/-- Where the end of a line leaves its reader. -/
inductive LineState where
  | complete
  | blank
  | escape
  | single
  | singleEscape
  | double
  | doubleEscape
  deriving DecidableEq, Repr

namespace LineState

def outside (c : Char) : LineState :=
  if c = '\\' then escape
  else if c = '"' then double
  else if c = '\'' then single
  else complete

def next (s : LineState) (c : Char) : LineState :=
  match s with
  | complete => if Text.isBlank c && c ≠ '\n' && c ≠ '\r' then blank else outside c
  | blank => outside c
  | escape => complete
  | single => if c = '\\' then singleEscape else if c = '\'' then complete else single
  | singleEscape => single
  | double => if c = '\\' then doubleEscape else if c = '"' then complete else double
  | doubleEscape => double

/-- Reads on to the end of the line, or to a remark. Gives what comes before the remark, and
the state where there is none. -/
def run (s : LineState) : List Char → List Char × Option LineState
  | [] => ([], some s)
  | c :: rest =>
    if s = blank ∧ c = '#' then ([], none)
    else
      let (before, after?) := run (s.next c) rest
      (c :: before, after?)

end LineState

/-- Text without the line feed at its end, and the carriage return before that. -/
def dropEnding (s : List Char) : List Char :=
  match s.reverse with
  | '\n' :: '\r' :: rest => rest.reverse
  | '\n' :: rest => rest.reverse
  | _ => s

/-- The entries of a file, each in one text. Quotes and backslashes at the end of a line go on
in the next one; `none` stands for an entry that is never completed. -/
def entriesFrom (start : List Char) (s : LineState) : List (List Char) → List (Option (List Char))
  | [] => if s = .complete then [] else [none]
  | line :: rest =>
    if (Text.dropBlanks (start ++ line)).head? = some '#' then entriesFrom [] .complete rest
    else
      match s.run line with
      | (before, none) => some (start ++ before) :: entriesFrom [] .complete rest
      | (_, some .complete) => some (dropEnding (start ++ line)) :: entriesFrom [] .complete rest
      | (_, some s) => entriesFrom (start ++ line) s rest

/-- The lines of a text with their line feeds. -/
def physicalLines (text : List Char) : List (List Char) :=
  let pieces := Text.cut (· == '\n') text
  let last := pieces.getLastD []
  pieces.dropLast.map (· ++ ['\n']) ++ if last.isEmpty then [] else [last]

def entries (text : List Char) : List (Option (List Char)) :=
  entriesFrom [] .complete (physicalLines text)

/-- What is being read of a value. -/
inductive ValueState where
  | plain
  | single
  | double
  | ended
  /-- After a backslash, between double quotes or not. -/
  | escape (quoted : Bool)
  /-- A reference to a variable. -/
  | reference (quoted : Bool) (name : List Char)
  | braced (quoted : Bool) (name : List Char)
  deriving DecidableEq, Repr

def around (quoted : Bool) : ValueState := if quoted then .double else .plain

/-- The names of references are of letters and numbers of any script. -/
def referencePart : CharSet := Unicode.Property.alphanumeric .seventeen

/-- The text of a value, with `look` giving the values of other variables. -/
def value? (look : String → String) : ValueState → List Char → Option (List Char)
  | .plain, [] | .ended, [] | .escape false, [] => some []
  | .reference false name, [] => some (look (String.ofList name)).toList
  | _, [] => none
  | .ended, c :: rest =>
    if c = ' ' ∨ c = '\t' then value? look .ended rest else if c = '#' then some [] else none
  | .escape quoted, c :: rest =>
    if c = 'n' then (value? look (around quoted) rest).map ('\n' :: ·)
    else if c = '\\' ∨ c = '\'' ∨ c = '"' ∨ c = '$' ∨ c = ' ' then
      (value? look (around quoted) rest).map (c :: ·)
    else none
  | .single, c :: rest =>
    if c = '\'' then value? look .plain rest else (value? look .single rest).map (c :: ·)
  | .reference quoted name, c :: rest =>
    if referencePart.contains c then value? look (.reference quoted (name ++ [c])) rest
    else if c = '\x7b' ∧ name.isEmpty then value? look (.braced quoted []) rest
    else
      let found := (look (String.ofList name)).toList
      if c = '$' then (value? look (.reference quoted []) rest).map (found ++ ·)
      else (value? look (around quoted) rest).map (found ++ c :: ·)
  | .braced quoted name, c :: rest =>
    if c = '\x7d' then
      (value? look (around quoted) rest).map ((look (String.ofList name)).toList ++ ·)
    else value? look (.braced quoted (name ++ [c])) rest
  | .double, c :: rest =>
    if c = '$' then value? look (.reference true []) rest
    else if c = '"' then value? look .plain rest
    else if c = '\\' then value? look (.escape true) rest
    else (value? look .double rest).map (c :: ·)
  | .plain, c :: rest =>
    if c = '$' then value? look (.reference false []) rest
    else if c = '\'' then value? look .single rest
    else if c = '"' then value? look .double rest
    else if c = '\\' then value? look (.escape false) rest
    else if c = ' ' ∨ c = '\t' then value? look .ended rest
    else (value? look .plain rest).map (c :: ·)

/-- The name at the front, and the rest without blanks before it. -/
def key? (s : List Char) : Option (List Char × List Char) :=
  let isPart (c : Char) := c.isAlphanum || c == '_' || c == '.'
  match s with
  | c :: _ =>
    if c.isAlpha || c == '_' then some (s.takeWhile isPart, Text.dropBlanks (s.dropWhile isPart))
    else none
  | [] => none

def afterEqual? : List Char → Option (List Char)
  | '=' :: rest => some (Text.dropBlanks rest)
  | _ => none

/-- What an entry says: the name and the text of the value, if it is not blank or a remark. -/
def assignment? (entry : List Char) : Option (Option (String × List Char)) :=
  let s := Text.strip entry
  if s.isEmpty || s.head? == some '#' then some none
  else do
    let (key, rest) ← key? s
    match afterEqual? rest with
    | some value => some (some (String.ofList key, value))
    | none =>
      if key = "export".toList then
        let (key, rest) ← key? rest
        some (some (String.ofList key, ← afterEqual? rest))
      else none

/-- Sets what the entries say. `earlier` holds the values of the file so far, which references
fall back on. -/
def load (environment earlier : Table String) : List (Option (List Char)) → Table String
  | [] => environment
  | none :: _ => environment
  | some entry :: rest =>
    match assignment? entry with
    | none => environment
    | some none => load environment earlier rest
    | some (some (name, written)) =>
      let look (name : String) := ((environment.get? name).or (earlier.get? name)).getD ""
      let text? := if written.head? = some '#' then some [] else value? look .plain written
      match text? with
      | none => environment
      | some text =>
        let value := String.ofList text
        load (if environment.contains name then environment else environment.set name value)
          (earlier.set name value) rest

def byteOrderMark : Char := '\uFEFF'

/-- The lines of a file before the first one that is no text. -/
def readable (bytes : Bytes) : List Char :=
  let decoded := Text.decode bytes
  let text := (decoded.takeWhile Option.isSome).filterMap id
  if decoded.all Option.isSome then text else (text.reverse.dropWhile (· ≠ '\n')).reverse

/-- The environment with the variables of a file. -/
def extend (environment : Table String) (bytes : Bytes) : Table String :=
  let s := readable bytes
  load environment .empty (entries (if s.head? = some byteOrderMark then s.tail else s))

end Runbook.EnvFile
