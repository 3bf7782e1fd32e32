import Runbook.RecordStream
/-! Objects: values with an identity and a state of their own. All names and values that refer
to an object see the same state. -/
namespace Runbook

inductive Object where
  | counter (n : Int64)
  | collection (items : List Value)
  | stream (s : RecordStream)

instance : Inhabited Object := ⟨.counter 0⟩

def Object.typeName : Object → String
  | .counter _ => "Counter"
  | .collection _ => "Collection"
  | .stream _ => "ObjectStream"

/-- Closing a collection empties it, and a counter has nothing to close. -/
def Object.closed : Object → Object
  | .counter n => .counter n
  | .collection _ => .collection []
  | .stream s => .stream s.close

/-- The objects made so far; the number of an object is its place. -/
structure Objects where
  cells : List Object

namespace Objects

def empty : Objects := ⟨[]⟩

def get? (o : Objects) (id : Nat) : Option Object := o.cells[id]?

def set (o : Objects) (id : Nat) (object : Object) : Objects := ⟨o.cells.set id object⟩

/-- A new object, and the value that refers to it. -/
def add (o : Objects) (object : Object) : Value × Objects :=
  (.object o.cells.length, ⟨o.cells ++ [object]⟩)

@[simp] theorem get?_set_same (o : Objects) (id : Nat) (object : Object)
    (h : id < o.cells.length) : (o.set id object).get? id = some object := by
  simp [get?, set, h]

@[simp] theorem get?_set_other (o : Objects) {id other : Nat} (object : Object)
    (h : other ≠ id) : (o.set id object).get? other = o.get? other := by
  simp [get?, set, List.getElem?_set_ne (Ne.symm h)]

theorem get?_add_old (o : Objects) {id : Nat} (object : Object) (h : id < o.cells.length) :
    (o.add object).2.get? id = o.get? id := by
  simp [get?, add, List.getElem?_append_left h]

/-- The text of an object through at most `depth` objects one inside the other. -/
def text (o : Objects) : Nat → Nat → String
  | 0, _ => ""
  | depth + 1, id =>
    match o.get? id with
    | some (.counter n) => toString n.toInt
    | some (.collection items) => (Value.list items).displayWith (o.text depth)
    | some (.stream s) => s.display
    | none => ""

/-- No chain of objects inside one another is longer than there are objects. -/
def display (o : Objects) (v : Value) : String := v.displayWith (o.text o.cells.length)

def typeName (o : Objects) : Value → String
  | .null => "Null"
  | .bool _ => "Bool"
  | .int _ => "Int"
  | .float _ => "Float"
  | .text _ => "Str"
  | .list _ => "List"
  | .object id => ((o.get? id).map Object.typeName).getD ""

/-- Runs the closing of an object; other values have none. -/
def close (o : Objects) : Value → Objects
  | .object id =>
    match o.get? id with
    | some object => o.set id object.closed
    | none => o
  | _ => o

/-- The stream a value refers to, with its number. -/
def stream? (o : Objects) : Value → Option (Nat × RecordStream)
  | .object id =>
    match o.get? id with
    | some (.stream s) => some (id, s)
    | _ => none
  | _ => none

def collection? (o : Objects) : Value → Option (Nat × List Value)
  | .object id =>
    match o.get? id with
    | some (.collection items) => some (id, items)
    | _ => none
  | _ => none

def counter? (o : Objects) : Value → Option (Nat × Int64)
  | .object id =>
    match o.get? id with
    | some (.counter n) => some (id, n)
    | _ => none
  | _ => none

/-- Adds to a counter, and gives its new value. A counter wraps around at its ends. -/
def raise? (o : Objects) (v : Value) (amount : Int64) : Option (Int64 × Objects) :=
  (o.counter? v).map fun (id, n) => (n + amount, o.set id (.counter (n + amount)))

/-- Puts an item at the end of a collection, and gives how many there are now. -/
def push? (o : Objects) (v item : Value) : Option (Nat × Objects) :=
  (o.collection? v).map fun (id, items) =>
    (items.length + 1, o.set id (.collection (items ++ [item])))

end Objects

end Runbook
