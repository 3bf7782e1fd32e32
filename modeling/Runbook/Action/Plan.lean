import Runbook.Action.Modifier
import Runbook.Failure
import Runbook.Interval
import Runbook.TimeOfDay
/-! What is settled about an action before its first iteration: its policy on failures, its
iterations, and when it runs. -/
namespace Runbook

/-- The modifiers of an action at the start of one invocation. -/
structure Descriptor where
  name : String
  repeats : Option String
  foreach : Option String
  repeatUntil : Option String
  ignore : Option String
  loopVariable : Option String
  postponeUntil : Option String
  outputFile : Option String
  assign : Option String
  repeatEvery : Option String
  deriving DecidableEq, Repr

namespace Descriptor

def read (control : ControlFile) (action : String) (vars : Variables) : Descriptor :=
  let modifier (m : Modifier) := control.modifier? action m vars
  { name := action
    repeats := modifier .repeats
    foreach := modifier .foreach
    repeatUntil := modifier .repeatUntil
    ignore := modifier .ignore
    loopVariable := modifier .loopVariable
    postponeUntil := modifier .postponeUntil
    outputFile := modifier .outputFile
    assign := modifier .assign
    repeatEvery := modifier .repeatEvery }

/-- The variable a loop binds: the one that is named, or else that of the action's name. -/
def loopName (d : Descriptor) : String := (d.loopVariable.bind Text.nonBlank).getD d.name

/-- The variable that takes the output, where one is named. -/
def assignName? (d : Descriptor) : Option String := d.assign.bind Text.nonBlank

def outputPath? (d : Descriptor) : Option String := d.outputFile.bind Text.nonBlank

end Descriptor

/-- Why an action has no plan. -/
inductive PlanFault where
  | unknownUntil (text : String)
  | unknownIgnored (text : String)
  | badCount (text : String)
  | badTime (text : String)
  | badInterval (text : String)
  deriving DecidableEq, Repr

def PlanFault.message (action : String) : PlanFault → String
  | .unknownUntil text =>
    "Repeat-until exception class not found in action '" ++ action ++ "': " ++ text
  | .unknownIgnored text =>
    "Ignore exception class not found in action '" ++ action ++ "': " ++ text
  | .badCount text =>
    "Number of repeats specified in action '" ++ action ++ "' is not a number: " ++ text
  | .badTime text =>
    "Cannot parse postponeUntil time '" ++ text ++ "' in action '" ++ action ++ "'"
  | .badInterval text =>
    "Cannot parse repeatEvery interval '" ++ text ++ "' in action '" ++ action ++ "'"

/-- Reads a modifier that means nothing when it is blank. -/
def readNonBlank {α : Type} (text : Option String) (parse : String → Option α)
    (fault : String → PlanFault) : Except PlanFault (Option α) :=
  match text.bind Text.nonBlank with
  | none => .ok none
  | some t =>
    match parse t with
    | some value => .ok (some value)
    | none => .error (fault t)

structure Policy where
  repeatUntil : Option FailureClass
  ignore : Option FailureClass
  deriving DecidableEq, Repr

/-- What becomes of a failure in one iteration. -/
inductive Disposition where
  /-- The loop ends, and the action has succeeded. -/
  | terminate (kind : Kind)
  /-- The loop goes on. -/
  | ignore (kind : Kind)
  /-- The failure goes to the action that asked for it. -/
  | propagate (failure : Failure)
  /-- The failure is written out, and the action has not succeeded. -/
  | report (failure : Failure)
  deriving DecidableEq, Repr

namespace Policy

def resolve (d : Descriptor) : Except PlanFault Policy := do
  let repeatUntil ← readNonBlank d.repeatUntil FailureClass.ofName? .unknownUntil
  let ignore ← readNonBlank d.ignore FailureClass.ofName? .unknownIgnored
  return ⟨repeatUntil, ignore⟩

/-- Whether failures inside the action have to reach its loop. -/
def catches (p : Policy) : Bool := p.repeatUntil.isSome || p.ignore.isSome

/-- The end of the loop is asked for first, then the ignored failures, then the caller. -/
def classify (p : Policy) (f : Failure) (throws : Bool) : Disposition :=
  if p.repeatUntil.any (·.covers f.kind) then .terminate f.kind
  else if p.ignore.any (·.covers f.kind) then .ignore f.kind
  else if throws then .propagate f
  else .report f

end Policy

inductive Iterations where
  | once
  | times (count : Nat)
  | each (values : List String)
  | unbounded
  deriving DecidableEq, Repr

namespace Iterations

/-- A list of values goes before a count, and a failure to wait for counts for nothing beside
either. -/
def resolve (d : Descriptor) (p : Policy) : Except PlanFault Iterations :=
  match d.foreach, d.repeats with
  | some values, _ => .ok (.each (Text.words values))
  | none, some text =>
    match Numeral.unsigned64? (Text.trim text) with
    | some count => .ok (.times count)
    | none => .error (.badCount text)
  | none, none => .ok (if p.repeatUntil.isSome then .unbounded else .once)

def count? : Iterations → Option Nat
  | once => some 1
  | times count => some count
  | each values => some values.length
  | unbounded => none

/-- Whether a loop variable is bound. -/
def binds : Iterations → Bool
  | once => false
  | _ => true

/-- What the loop variable holds in an iteration, counted from zero. -/
def value (it : Iterations) (index : Nat) : String :=
  match it with
  | each values => (values[index]?).getD ""
  | _ => toString (index + 1)

def has (it : Iterations) (index : Nat) : Bool := it.count?.all (index < ·)

end Iterations

structure Plan where
  policy : Policy
  iterations : Iterations
  postponeUntil : Option TimeOfDay
  /-- The interval of the repetition in the background, in milliseconds. -/
  every : Option Nat
  warning : Option String
  deriving DecidableEq, Repr

namespace Plan

/-- A count beside a list of values is worth a warning. -/
def warning? (d : Descriptor) : Option String :=
  if d.foreach.isSome ∧ d.repeats.isSome then
    some ("WARNING: repeat is ignored when foreach is specified in action '" ++ d.name ++ "'")
  else none

def resolve (d : Descriptor) : Except PlanFault Plan := do
  let policy ← Policy.resolve d
  let iterations ← Iterations.resolve d policy
  let postponeUntil ← readNonBlank d.postponeUntil TimeOfDay.parse? .badTime
  let every ← readNonBlank d.repeatEvery Interval.parse? .badInterval
  return ⟨policy, iterations, postponeUntil, every, warning? d⟩

end Plan

end Runbook
