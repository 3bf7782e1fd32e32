import Runbook.Text.Blank
/-! Failures of commands. Every failure has one of ten kinds, and the policies of actions match
on the kind alone; the wording is for people. -/
namespace Runbook

inductive Kind where
  /-- A stream or a storage has no further element. -/
  | noSuchElement
  /-- An argument cannot be understood. -/
  | illegalArgument
  /-- The call is not allowed now. -/
  | illegalState
  /-- The target does not support the operation. -/
  | noSuchMethod
  /-- Nothing of that type can be built. -/
  | noSuchInstantiator
  /-- Building something failed. -/
  | instantiation
  /-- A name or an index stands for nothing. -/
  | notFound
  /-- A file cannot be used. -/
  | io
  /-- The call was cut short by the shutdown. -/
  | interrupted
  /-- Anything else. -/
  | runtime
  deriving DecidableEq, Repr

namespace Kind

def all : List Kind :=
  [noSuchElement, illegalArgument, illegalState, noSuchMethod, noSuchInstantiator,
    instantiation, notFound, io, interrupted, runtime]

/-- The name that control files use for a kind. -/
def name : Kind → String
  | noSuchElement => "NoSuchElement"
  | illegalArgument => "IllegalArgument"
  | illegalState => "IllegalState"
  | noSuchMethod => "NoSuchMethod"
  | noSuchInstantiator => "NoSuchInstantiator"
  | instantiation => "Instantiation"
  | notFound => "NotFound"
  | io => "Io"
  | interrupted => "Interrupted"
  | runtime => "Runtime"

/-- How the message of a failure of this kind begins. -/
def heading : Kind → String
  | noSuchElement => "No such element"
  | illegalArgument => "Illegal argument"
  | illegalState => "Illegal state"
  | noSuchMethod => "No such method"
  | noSuchInstantiator => "No such instantiator"
  | instantiation => "Instantiation failed"
  | notFound => "Not found"
  | io => "I/O error"
  | interrupted => "Interrupted"
  | runtime => "Runtime error"

theorem mem_all (k : Kind) : k ∈ all := by cases k <;> simp [all]

/-- A name without the ending `exception`, or else without the ending `error`. -/
def withoutEnding (lowered : String) : String :=
  let cut (ending : String) : Option String :=
    if lowered.endsWith ending then some (lowered.dropEnd ending.length).toString else none
  ((cut "exception").orElse fun _ => cut "error").getD lowered

/-- The kind of that name in any mixture of cases, with or without an ending. -/
def ofName? (text : String) : Option Kind :=
  let base := withoutEnding (Text.lowerAscii (Text.trim text))
  all.find? fun k => Text.lowerAscii k.name = base

theorem trim_name (k : Kind) : Text.trim k.name = k.name := by
  have each : ∀ k ∈ all, Text.trim k.name = k.name := by decide +kernel
  exact each k (mem_all k)

/-- A kind is found by its own name. -/
theorem ofName?_name (k : Kind) : ofName? k.name = some k := by
  -- No name ends like that of an exception or an error, and no two differ in their cases alone.
  have whole : ∀ k ∈ all, withoutEnding (Text.lowerAscii k.name) = Text.lowerAscii k.name := by
    decide +kernel
  have apart : ∀ k ∈ all,
      all.find? (fun l => Text.lowerAscii l.name = Text.lowerAscii k.name) = some k := by
    decide +kernel
  rw [ofName?, trim_name, whole k (mem_all k)]
  exact apart k (mem_all k)

/-- What is said of a text that names no kind. -/
def unknown (text : String) : String := "Unknown error kind: " ++ Text.trim text

end Kind

structure Failure where
  kind : Kind
  detail : String
  deriving DecidableEq, Repr

def Failure.message (f : Failure) : String := f.kind.heading ++ ": " ++ f.detail

/-- A set of kinds as a policy names it: all of them, or one. -/
inductive FailureClass where
  | any
  | only (kind : Kind)
  deriving DecidableEq, Repr

namespace FailureClass

def covers (c : FailureClass) (k : Kind) : Bool :=
  match c with
  | any => true
  | only kind => kind = k

def ofName? (text : String) : Option FailureClass :=
  let lowered := Text.lowerAscii (Text.trim text)
  if lowered = "any" ∨ lowered = "error" ∨ lowered = "exception" then some any
  else (Kind.ofName? text).map only

def name : FailureClass → String
  | any => "Any"
  | only kind => kind.name

theorem ofName?_name (c : FailureClass) : ofName? c.name = some c := by
  cases c with
  | any => decide +kernel
  | only k =>
    have other : ∀ k ∈ Kind.all, ¬ (Text.lowerAscii k.name = "any" ∨
        Text.lowerAscii k.name = "error" ∨ Text.lowerAscii k.name = "exception") := by
      decide +kernel
    rw [ofName?, name, Kind.trim_name, if_neg (other k k.mem_all), Kind.ofName?_name, Option.map_some]

end FailureClass

/-- A step that succeeds goes on from a first one that does. -/
theorem bind_eq_ok {ε α β : Type} {x : Except ε α} {next : α → Except ε β} {r : β}
    (h : x >>= next = .ok r) : ∃ a, x = .ok a ∧ next a = .ok r := by
  cases x with
  | error f => cases h
  | ok a => exact ⟨a, rfl, h⟩

end Runbook
