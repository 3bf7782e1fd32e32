import Runbook.Number.Decimal
import Runbook.Number.Shortest
import Runbook.Text.Blank
/-! Values: what signatures build, records decode to and operations answer. Objects have an
identity and a state, and a value only refers to them. -/
namespace Runbook

inductive Value where
  | null
  | bool (b : Bool)
  | int (n : Int64)
  | float (x : Binary64)
  | text (s : String)
  | list (items : List Value)
  /-- The object of that number. -/
  | object (id : Nat)

namespace Value

instance : Inhabited Value := ⟨null⟩

/-- The integer a value can be read as. A floating-point number without a fractional part is
moved into the 64-bit range. -/
def asInt? : Value → Option Int64
  | int n => some n
  | float x => x.toInt?.map Binary64.clamp64
  | text s => Numeral.integer64? (Text.trim s)
  | _ => none

/-- The same for sizes and positions, which are not negative. -/
def asNat? (v : Value) : Option Nat :=
  v.asInt?.bind fun n => if 0 ≤ n.toInt then some n.toInt.toNat else none

def asFloat? : Value → Option Binary64
  | int n => some (.ofInt n.toInt)
  | float x => some x
  | text s => Binary64.read? (Text.trim s)
  | _ => none

def asText? : Value → Option String
  | text s => some s
  | _ => none

def ofCount (n : Nat) : Value := .int (Int64.ofNat n)

mutual

/-- The text of a value, with that of the objects in it given. -/
def displayWith (objectText : Nat → String) : Value → String
  | null => "null"
  | bool b => if b then "true" else "false"
  | int n => toString n.toInt
  | float x => x.text Binary64.displayed
  | text s => s
  | list items => "[" ++ displayItems objectText items ++ "]"
  | object id => objectText id

def displayItems (objectText : Nat → String) : List Value → String
  | [] => ""
  | [v] => displayWith objectText v
  | v :: w :: rest => displayWith objectText v ++ ", " ++ displayItems objectText (w :: rest)

end

end Value

end Runbook
