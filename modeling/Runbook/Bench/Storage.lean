import Runbook.Bench.Operation
/-! Storages: what operations work on. One keeps its records, up to a capacity where it has
one; the other only counts them. -/
namespace Runbook

inductive Storage where
  | memory (records : List String) (capacity : Option Nat)
  | discard (inserted : Nat)
  deriving DecidableEq, Repr

namespace Storage

def name : Storage → String
  | memory _ _ => "MemoryStorage"
  | discard _ => "Discard"

def types : List String := ["MemoryStorage", "Discard"]

/-- How many records are kept. -/
def size : Storage → Nat
  | memory records _ => records.length
  | discard _ => 0

/-- The storage that is left when it is stopped. -/
def finalized : Storage → Storage
  | memory _ capacity => memory [] capacity
  | discard inserted => discard inserted

def create (objects : Objects) (type : String) (args : List Value) : Except Failure Storage :=
  match type, args with
  | "MemoryStorage", [] => .ok (memory [] none)
  | "MemoryStorage", [capacity] =>
    match capacity.asNat? with
    | some n => .ok (memory [] (some n))
    | none =>
      .error ⟨.instantiation, "MemoryStorage: invalid capacity " ++ objects.display capacity⟩
  | "MemoryStorage", args =>
    .error ⟨.instantiation,
      "MemoryStorage takes at most one argument, got " ++ toString args.length⟩
  | "Discard", _ => .ok (discard 0)
  | type, _ => .error ⟨.noSuchInstantiator, "algorithm '" ++ type ++ "'"⟩

def limited {α : Type} (count : Option Nat) (items : List α) : List α :=
  match count with
  | some n => items.take n
  | none => items

/-- The values a source yields. A stream moves on, whether it yields them or fails. -/
def sourceValues (files : FileTree) (objects : Objects) (source : Value) (count : Option Nat) :
    Except Failure (List Value) × Objects :=
  match objects.stream? source with
  | some (id, s) =>
    let (result, s) := s.take files count
    (result, objects.set id (.stream s))
  | none =>
    match objects.collection? source with
    | some (_, items) => (.ok (limited count items), objects)
    | none =>
      match source with
      | .list items => (.ok (limited count items), objects)
      | v => (.ok [v], objects)

/-- The records to insert are the texts of the values. -/
def sourceRecords (files : FileTree) (objects : Objects) (source : Value) (count : Option Nat) :
    Except Failure (List String) × Objects :=
  let (result, objects) := sourceValues files objects source count
  (result.map fun vs => vs.map objects.display, objects)

def occursIn (needle : List Char) : List Char → Bool
  | [] => needle.isEmpty
  | c :: rest => needle.isPrefixOf (c :: rest) || occursIn needle rest

def fits (capacity : Option Nat) (size : Nat) : Bool := capacity.all (size ≤ ·)

/-- What an operation answers, and the storage after it. -/
abbrev Answer := List Value × Storage

def insert (s : Storage) (new : List String) : Except Failure Answer :=
  match s with
  | memory records capacity =>
    if fits capacity (records.length + new.length) then
      .ok ([.ofCount new.length], memory (records ++ new) capacity)
    else .error ⟨.illegalState, "capacity " ++ toString (capacity.getD 0) ++ " exceeded"⟩
  | discard inserted => .ok ([.ofCount new.length], discard (inserted + new.length))

def unsupported (kind : OperationKind) : Failure :=
  ⟨.noSuchMethod, "Discard does not support " ++ kind.name⟩

/-- Answers an operation; `new` holds the records to insert. -/
def answer (s : Storage) (kind : OperationKind) (new : List String) : Except Failure Answer :=
  match s, kind with
  | s, .insert _ _ => s.insert new
  | memory records capacity, .count =>
    .ok ([.ofCount records.length], memory records capacity)
  | memory records capacity, .get position =>
    match records[position]? with
    | some record => .ok ([.text record], memory records capacity)
    | none =>
      .error ⟨.noSuchElement,
        "position " ++ toString position ++ " of " ++ toString records.length ++ " records"⟩
  | memory records capacity, .search needle =>
    .ok ((records.filter fun r => occursIn needle.toList r.toList).map .text,
      memory records capacity)
  | memory records capacity, .clear => .ok ([.ofCount records.length], memory [] capacity)
  | discard inserted, .count => .ok ([.ofCount inserted], discard inserted)
  | discard _, kind => .error (unsupported kind)

/-- Carries out an operation; only that of inserting looks at its source. -/
def run (s : Storage) (files : FileTree) (objects : Objects) (kind : OperationKind) :
    Except Failure Answer × Objects :=
  match kind with
  | .insert source count =>
    let (result, objects) := sourceRecords files objects source count
    (result.bind (s.answer kind), objects)
  | kind => (s.answer kind [], objects)

end Storage

end Runbook
