import Runbook.Number.Decimal
import Runbook.Number.Shortest
import Runbook.Pattern.Written
/-! What a directive of the log asks of a field: that it is there, or that it has a value. -/
namespace Runbook.LogFilter

inductive Wanted where
  | flag (value : Bool)
  /-- A number other than `notANumber`. -/
  | float (x : Binary64)
  | notANumber
  | unsigned (n : Nat)
  | signed (n : Int)
  /-- Text that a pattern matches as a whole. -/
  | text (pattern : String)
  deriving DecidableEq, Repr

/-- Why no value can be asked for. -/
inductive FieldFault where
  | malformedPattern
  | wordPlace
  deriving DecidableEq, Repr

def FieldFault.message : FieldFault → String
  | malformedPattern => "error building NFA"
  | wordPlace => "unsupported regex feature for DFAs: cannot build DFAs for regexes with " ++
      "Unicode word boundaries; switch to ASCII word boundaries, or heuristically enable " ++
      "Unicode word boundaries or use a different regex engine"

namespace Wanted

/-- The two words, a number of 64 bits, or else a pattern, which may ask for the places of words
only among ASCII characters. -/
def read (s : String) : Except FieldFault Wanted :=
  if s = "true" then .ok (flag true)
  else if s = "false" then .ok (flag false)
  else
    match Numeral.unsigned64? s, Numeral.integer64? s, Binary64.read? s with
    | some n, _, _ => .ok (unsigned n)
    | none, some n, _ => .ok (signed n.toInt)
    | none, none, some .nan => .ok notANumber
    | none, none, some x => .ok (float x)
    | none, none, none =>
      match Pattern.parse? s with
      | none => .error .malformedPattern
      | some p => if p.hasUnicodeWordPlace then .error .wordPlace else .ok (text s)

def display : Wanted → String
  | flag value => toString value
  | float x => x.text Binary64.displayed
  | notANumber => Binary64.nan.text Binary64.displayed
  | unsigned n => toString n
  | signed n => toString n
  | text pattern => pattern

/-- The place of the kind of a value among the kinds. -/
def rank : Wanted → Nat
  | flag _ => 0
  | float _ => 1
  | notANumber => 2
  | unsigned _ => 3
  | signed _ => 4
  | text _ => 5

/-- Values by their kinds, and those of one kind in their own order. -/
def order : Wanted → Wanted → Ordering
  | flag a, flag b => compare a b
  | float x, float y => compare x.rank y.rank
  | unsigned m, unsigned n => compare m n
  | signed m, signed n => compare m n
  | text p, text q => compare p q
  | a, b => compare a.rank b.rank

end Wanted

structure Field where
  name : String
  wanted : Option Wanted
  deriving DecidableEq, Repr

namespace Field

/-- A name, and behind an equals sign what is wanted, which a second one would end. -/
def read (s : String) : Except FieldFault Field :=
  match s.splitOn "=" with
  | name :: wanted :: _ => (Wanted.read wanted).map fun w => ⟨name, some w⟩
  | _ => .ok ⟨s, none⟩

def display (f : Field) : String :=
  f.name ++
    match f.wanted with
    | some w => "=" ++ w.display
    | none => ""

/-- First by whether a value is wanted, then by the name. -/
def order (a b : Field) : Ordering :=
  (compare a.wanted.isSome b.wanted.isSome).then <|
    (compare a.name b.name).then <|
      match a.wanted, b.wanted with
      | some v, some w => v.order w
      | _, _ => .eq

end Field

end Runbook.LogFilter
