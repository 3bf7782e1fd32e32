import Runbook.Text.Blank
import Runbook.Text.Percent
/-! Targets of requests: a path of segments, and a query of names with values. -/
namespace Runbook.Web

structure Target where
  path : List Char
  query : List Char
  deriving DecidableEq, Repr

namespace Target

def isSchemeSign (c : Char) : Bool := c.isAlphanum || c == '+' || c == '-' || c == '.'

/-- What is behind the name of a host, where the text begins with a scheme and a host. -/
def behindHost? (s : List Char) : Option (List Char) :=
  match s.dropWhile isSchemeSign with
  | ':' :: '/' :: '/' :: rest => some (rest.dropWhile fun c => c ≠ '/' ∧ c ≠ '?')
  | _ => none

/-- The path ends at the first question mark. -/
def ofPath (s : List Char) : Target :=
  ⟨s.takeWhile (· ≠ '?'), (s.dropWhile (· ≠ '?')).drop 1⟩

/-- A path and a query, which a scheme and a host may precede; the path behind a host is never
empty. Nothing counts after a number sign, and a host alone has no path. -/
def ofText (text : String) : Target :=
  let s := text.toList.takeWhile (· ≠ '#')
  if s.head? = some '/' then ofPath s
  else
    match behindHost? s with
    | none => ⟨[], []⟩
    | some rest =>
      let t := ofPath rest
      if t.path.isEmpty then { t with path := ['/'] } else t

/-- The segments of the path, as they are written. -/
def segments (t : Target) : List (List Char) := Text.cut (· == '/') t.path

def decoded (s : List Char) : Bytes := Text.Percent.decode (Text.toBytes (String.ofList s))

/-- A segment of the path as text, unless its bytes are no text. -/
def segmentText? (s : List Char) : Option String := Text.ofBytes? (decoded s)

/-- A name or a value of the query. -/
def queryText (s : List Char) : String :=
  Text.ofBytesLossy (decoded (s.map fun c => if c = '+' then ' ' else c))

/-- A name with its value; without an equals sign the value is empty. -/
def pair (s : List Char) : String × String :=
  (queryText (s.takeWhile (· ≠ '=')), queryText ((s.dropWhile (· ≠ '=')).drop 1))

/-- The names and values of the query, in order. -/
def pairs (t : Target) : List (String × String) :=
  ((Text.cut (· == '&') t.query).filter (!·.isEmpty)).map pair

end Target

end Runbook.Web
