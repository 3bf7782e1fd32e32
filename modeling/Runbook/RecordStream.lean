import Runbook.Failure
import Runbook.FileTree
import Runbook.Value
/-! Record streams: files read line by line, each line that is not blank being a record. The
reader is opened at the first read and remembers how many bytes it has taken, so that it sees
what is appended to the file later. -/
namespace Runbook

/-- How a line is made into a value. -/
inductive RecordType where
  | text
  | int
  | float
  /-- Numbers between commas or blanks. -/
  | vector
  deriving DecidableEq, Repr

namespace RecordType

def name : RecordType → String
  | text => "Text"
  | int => "Int"
  | float => "Float"
  | vector => "Vector"

def ofName? (s : String) : Option RecordType :=
  match Text.lowerAscii (Text.trim s) with
  | "text" | "str" | "string" => some text
  | "int" | "integer" => some int
  | "float" | "double" => some float
  | "vector" => some vector
  | _ => none

/-- Fails where the text names no record type. -/
def read (s : String) : Except Failure RecordType :=
  match ofName? s with
  | some t => .ok t
  | none => .error ⟨.noSuchInstantiator, "record type '" ++ Text.trim s ++ "'"⟩

def parts (line : String) : List String :=
  ((Text.cut (fun c => c == ',' || Text.isBlank c) line.toList).filter (!·.isEmpty)).map
    String.ofList

def decode? (t : RecordType) (line : String) : Option Value :=
  match t with
  | text => some (.text line)
  | int => (Numeral.integer64? line).map .int
  | float => (Binary64.read? line).map .float
  | vector => ((parts line).mapM Binary64.read?).map fun xs => .list (xs.map .float)

/-- What a line should have been. -/
def wanted : RecordType → String
  | text => "a text"
  | int => "an integer"
  | float => "a number"
  | vector => "a vector"

def decode (t : RecordType) (line : String) : Except Failure Value :=
  match t.decode? line with
  | some v => .ok v
  | none => .error ⟨.illegalArgument, "not " ++ t.wanted ++ ": " ++ line⟩

end RecordType

structure RecordStream where
  path : String
  type : RecordType
  /-- How many records have been read. -/
  position : Nat
  closed : Bool
  /-- How many bytes the reader has taken, once it is open. -/
  taken : Option Nat
  deriving DecidableEq, Repr

namespace RecordStream

def fresh (path : String) (type : RecordType) : RecordStream := ⟨path, type, 0, false, none⟩

/-- A stream over an existing file. -/
def opened (files : FileTree) (path : String) (type : RecordType) :
    Except Failure RecordStream :=
  if files.isFile path then .ok (fresh path type)
  else .error ⟨.notFound, "stream file '" ++ path ++ "'"⟩

def lineFeed : UInt8 := 10

/-- The first line of the bytes, with its line feed. -/
def lineOf (bytes : Bytes) : Bytes :=
  bytes.takeWhile (· ≠ lineFeed) ++ (bytes.dropWhile (· ≠ lineFeed)).take 1

/-- What is found from a position on. -/
inductive Found where
  | nothing
  | line (text : String)
  | malformed
  deriving DecidableEq, Repr

theorem length_lineOf {b : UInt8} {rest : Bytes} :
    0 < (lineOf (b :: rest)).length := by
  unfold lineOf
  by_cases h : b = lineFeed <;> simp [h]

/-- Skips blank lines. The number is that of the bytes taken. -/
def skim (bytes : Bytes) (taken : Nat) : Found × Nat :=
  match _h : bytes with
  | [] => (.nothing, taken)
  | b :: rest =>
    let line := lineOf (b :: rest)
    let taken := taken + line.length
    match Text.ofBytes? line with
    | none => (.malformed, taken)
    | some text =>
      let trimmed := Text.trim text
      if trimmed.isEmpty then skim ((b :: rest).drop line.length) taken
      else (.line trimmed, taken)
termination_by bytes.length
decreasing_by
  have := @length_lineOf b rest
  simp only [List.length_drop]
  simp only [List.length_cons] at *
  omega

/-- Reads the next record. A line that cannot be decoded has been taken all the same. -/
def next (files : FileTree) (s : RecordStream) : Except Failure Value × RecordStream :=
  if s.closed then (.error ⟨.illegalState, "stream '" ++ s.path ++ "' is closed"⟩, s)
  else
    match files.read s.path with
    | .error fault => (.error ⟨.io, fault.message⟩, s)
    | .ok bytes =>
      let start := s.taken.getD 0
      let (found, taken) := skim (bytes.drop start) start
      let s := { s with taken := some taken }
      match found with
      | .nothing =>
        (.error ⟨.noSuchElement, "end of stream '" ++ s.path ++ "' after " ++
          toString s.position ++ " records"⟩, s)
      | .malformed => (.error ⟨.io, PathFault.malformedText.message⟩, s)
      | .line text =>
        match s.type.decode text with
        | .ok v => (.ok v, { s with position := s.position + 1 })
        | .error f => (.error f, s)

/-- Reads on. The end of the file is no failure once something was read, or without a limit.
`bound` is at least the number of records to come. -/
def takeMore (files : FileTree) (limit : Option Nat) (started : Bool) (s : RecordStream) :
    Nat → Except Failure (List Value) × RecordStream
  | 0 => (.ok [], s)
  | bound + 1 =>
    if limit = some 0 then (.ok [], s)
    else
      match s.next files with
      | (.ok v, s) =>
        match s.takeMore files (limit.map (· - 1)) true bound with
        | (.ok vs, s) => (.ok (v :: vs), s)
        | failed => failed
      | (.error f, s) =>
        if f.kind = .noSuchElement ∧ (started ∨ limit.isNone) then (.ok [], s) else (.error f, s)

/-- Reads up to `limit` records, or all that are left. -/
def take (files : FileTree) (s : RecordStream) (limit : Option Nat) :
    Except Failure (List Value) × RecordStream :=
  let size := ((files.read s.path).toOption.map List.length).getD 0
  s.takeMore files limit false (size + 1)

/-- Goes back to the first record, and opens a closed stream again. -/
def reset (s : RecordStream) : RecordStream := fresh s.path s.type

def close (s : RecordStream) : RecordStream := { s with closed := true, taken := none }

def display (s : RecordStream) : String :=
  "ObjectStream(" ++ s.path ++ ", " ++ s.type.name ++ ", " ++
    (if s.closed then "closed" else "position " ++ toString s.position) ++ ")"

end RecordStream

end Runbook
