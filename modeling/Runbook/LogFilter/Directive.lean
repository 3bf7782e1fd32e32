import Runbook.LogFilter.Field
import Runbook.LogFilter.Level
import Runbook.Text.Utf8
import Runbook.Unicode.Property
/-! Directives of the log: a level for what comes from a target, for what happens in a span, or
for what has a field. In writing, `target[span{field}]=level` stands for all of them; each part
may be left out. -/
namespace Runbook.LogFilter

structure Directive where
  target : Option String
  span : Option String
  field : Option Field
  level : Level
  deriving DecidableEq, Repr

inductive Fault where
  | directive
  | level
  | field (fault : FieldFault)
  deriving DecidableEq, Repr

def Fault.message : Fault → String
  | directive => "invalid filter directive"
  | level => "error parsing level filter: expected one of \"off\", \"error\", \"warn\", " ++
      "\"info\", \"debug\", \"trace\", or a number 0-5"
  | field fault => "invalid field filter: " ++ fault.message

namespace Directive

def ofLevel (level : Level) : Directive := ⟨none, none, none, level⟩

def ofTarget (target : String) (level : Level) : Directive := ⟨some target, none, none, level⟩

/-! ## Reading -/

/-- The part that is being read, and where it began. -/
inductive Part where
  | nothing
  | target (first : Nat)
  | span (first : Nat)
  | field (first : Nat)
  | closedField
  | closedSpan
  | level (first : Nat)
  deriving DecidableEq, Repr

/-- A directive begins with a bracket, a letter, a digit or one of three signs. -/
def beginsTarget (c : Char) : Bool :=
  c == '-' || c == ':' || c == '_' || (Unicode.Property.alphanumeric .seventeen).contains c

def nonEmpty (s : String) : Option String := if s.isEmpty then none else some s

/-- Goes on with the character at a place; `cut` gives the text between two places. -/
def step (cut : Nat → Nat → String) (d : Directive) (part : Part) (place : Nat) (c : Char) :
    Except Fault (Directive × Part) :=
  match part with
  | .nothing =>
    if c = '[' then .ok (d, .span (place + 1))
    else if beginsTarget c then .ok (d, .target place)
    else .error .directive
  | .target first =>
    if c = '=' then .ok ({ d with target := some (cut first place) }, .level (place + 1))
    else if c = '[' then .ok ({ d with target := some (cut first place) }, .span (place + 1))
    else .ok (d, part)
  | .span first =>
    if c = ']' then .ok ({ d with span := some (cut first place) }, .closedSpan)
    else if c = '\x7b' then .ok ({ d with span := nonEmpty (cut first place) }, .field (place + 1))
    else .ok (d, part)
  | .field first =>
    if c = '\x7d' then
      let written := cut first place
      if written.isEmpty then .error .directive
      else
        match Field.read written with
        | .ok field => .ok ({ d with field := some field }, .closedField)
        | .error fault => .error (.field fault)
    else .ok (d, part)
  | .closedField => if c = ']' then .ok (d, .closedSpan) else .error .directive
  | .closedSpan => if c = '=' then .ok (d, .level (place + 1)) else .error .directive
  | .level _ => .ok (d, part)

/-- What a directive is at the end of its text. A target alone may be a level instead, and a
level that is left out lets everything through. -/
def finish (rest : Nat → String) (d : Directive) : Part → Except Fault Directive
  | .target first =>
    match Level.read? (rest first) with
    | some level => .ok (ofLevel level)
    | none => .ok (ofTarget (rest first) .trace)
  | .level first =>
    if (rest first).isEmpty then .ok { d with level := .trace }
    else
      match Level.read? (rest first) with
      | some level => .ok { d with level }
      | none => .error .level
  | .closedSpan => .ok d
  | _ => .error .directive

/-- Reads characters from a place on. -/
def readFrom (cut : Nat → Nat → String) (rest : Nat → String) (d : Directive) (part : Part)
    (place : Nat) : List Char → Except Fault Directive
  | [] => finish rest d part
  | c :: s => do
    let (d, part) ← step cut d part place c
    readFrom cut rest d part (place + c.utf8Size) s

/-- Places are counted in bytes, and without the blanks around the text; but the parts are cut at
these places from the whole text. -/
def read (text : String) : Except Fault Directive :=
  let bytes := Text.toBytes text
  let cut (first last : Nat) := Text.ofBytesLossy ((bytes.take last).drop first)
  let rest (first : Nat) := Text.ofBytesLossy (bytes.drop first)
  readFrom cut rest (ofLevel .trace) .nothing 0 (Text.strip text.toList)

/-! ## Writing -/

def Field.braced (f : Field) : String := "\x7b" ++ f.display ++ "\x7d"

/-- The brackets of a directive for spans or fields. -/
def brackets (d : Directive) : String :=
  if d.span.isNone && d.field.isNone then ""
  else "[" ++ d.span.getD "" ++ (d.field.map Field.braced).getD "" ++ "]"

def display (d : Directive) : String :=
  let front := d.target.getD "" ++ d.brackets
  if front.isEmpty then d.level.name else front ++ "=" ++ d.level.name

/-! ## Order -/

/-- Whether the target and the presence of a field decide alone. -/
def isStatic (d : Directive) : Bool := d.span.isNone && !d.field.any (·.wanted.isSome)

/-- Whether spans have to be followed. -/
def isDynamic (d : Directive) : Bool := d.span.isSome || d.field.isSome

/-- How specific directives are: first by the length of their targets, then by whether they ask
for a span, and then by whether they ask for a field. -/
def specificity (a b : Directive) : Ordering :=
  (compare (a.target.map String.utf8ByteSize) (b.target.map String.utf8ByteSize)).then <|
    (compare a.span.isSome b.span.isSome).then <|
      (compare a.field.isSome b.field.isSome).then <|
        (compare a.target b.target).then <|
          (compare a.span b.span).then <|
            match a.field, b.field with
            | some f, some g => f.order g
            | _, _ => .eq

end Directive

end Runbook.LogFilter
