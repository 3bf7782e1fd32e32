import Runbook.Table
/-! Variables of a run, and the two a loop binds. -/
namespace Runbook

abbrev Variables := Table String

namespace Variables

/-- The parts of `name=value`: the first equals sign divides, and the name is not empty. -/
def assignment? (text : String) : Option (String × String) :=
  let s := text.toList
  let name := s.takeWhile (· ≠ '=')
  match s.dropWhile (· ≠ '=') with
  | [] => none
  | _ :: value =>
    if name.isEmpty then none else some (String.ofList name, String.ofList value)

/-- Carries out an assignment, where the text is one. -/
def assign? (vars : Variables) (text : String) : Option Variables :=
  (assignment? text).map fun e => vars.set e.1 e.2

end Variables

/-- The name of the companion that counts the iterations of a loop from zero. -/
def iterationName (name : String) : String := name ++ "_iteration"

/-- What a loop variable and its companion held before the loop. -/
structure LoopVariable where
  name : String
  value : Option String
  iteration : Option String

namespace LoopVariable

def save (vars : Variables) (name : String) : LoopVariable :=
  ⟨name, vars.get? name, vars.get? (iterationName name)⟩

def bind (v : LoopVariable) (vars : Variables) (value : String) (iteration : Nat) : Variables :=
  (vars.set v.name value).set (iterationName v.name) (toString iteration)

def putBack (vars : Variables) (name : String) : Option String → Variables
  | some value => vars.set name value
  | none => vars.erase name

def restore (v : LoopVariable) (vars : Variables) : Variables :=
  putBack (putBack vars v.name v.value) (iterationName v.name) v.iteration

end LoopVariable

end Runbook
