import Runbook.ControlFile
import Runbook.Placeholder
/-! What a control file says of an action: the entry of its name, its parameters, and the
entries that modify how it runs. Each is read when it is needed, with the variables of that
moment. -/
namespace Runbook

inductive Modifier where
  | repeats
  | foreach
  | repeatUntil
  | ignore
  | loopVariable
  | postponeUntil
  | outputFile
  | assign
  | description
  | descriptionAfter
  | repeatEvery
  deriving DecidableEq, Repr

namespace Modifier

def all : List Modifier :=
  [repeats, foreach, repeatUntil, ignore, loopVariable, postponeUntil, outputFile, assign,
    description, descriptionAfter, repeatEvery]

def key : Modifier → String
  | repeats => "repeat"
  | foreach => "foreach"
  | repeatUntil => "repeatUntilException"
  | ignore => "ignoreException"
  | loopVariable => "loopVariable"
  | postponeUntil => "postponeUntil"
  | outputFile => "outputFile"
  | assign => "assign"
  | description => "description"
  | descriptionAfter => "descriptionAfter"
  | repeatEvery => "repeatEvery"

/-- The name of the entry that modifies an action. -/
def entryName (m : Modifier) (action : String) : String := action ++ "." ++ m.key

end Modifier

namespace ControlFile

def modifier? (control : ControlFile) (action : String) (m : Modifier) (vars : Variables) :
    Option String :=
  (control.get? (m.entryName action)).map (substitute vars)

/-- Trimmed text without the pair of double quotes around it, if there is one. -/
def unquote (text : String) : String :=
  match Text.strip text.toList with
  | '"' :: rest =>
    if rest.getLast? = some '"' then String.ofList rest.dropLast else String.ofList ('"' :: rest)
  | s => String.ofList s

/-- What an action runs; an action without an entry runs what has its name. -/
def target (control : ControlFile) (action : String) (vars : Variables) : String :=
  match control.get? action with
  | some raw => unquote (substitute vars raw)
  | none => action

def parameterName (action : String) (index : Nat) : String :=
  action ++ ".param." ++ toString index

/-- The parameters from `index` on, until one is missing. No more than `count` are looked up. -/
def parametersFrom (control : ControlFile) (action : String) (vars : Variables) (index : Nat) :
    Nat → List String
  | 0 => []
  | count + 1 =>
    match control.get? (parameterName action index) with
    | some raw =>
      unquote (substitute vars raw) :: control.parametersFrom action vars (index + 1) count
    | none => []

/-- There cannot be more parameters than entries. -/
def parameters (control : ControlFile) (action : String) (vars : Variables) : List String :=
  control.parametersFrom action vars 1 control.size

/-- Commands whose last argument is the name of the action when it is left out, and how many
arguments they have then. -/
def selfNaming : List (String × Nat) :=
  [("objectStreamOpen", 2), ("namedInstanceAdd", 1), ("namedInstanceReplace", 1)]

/-- The arguments an action gives to its target. -/
def arguments (control : ControlFile) (action : String) (vars : Variables) : List String :=
  let given := control.parameters action vars
  if selfNaming.contains (control.target action vars, given.length) then given ++ [action]
  else given

end ControlFile

end Runbook
