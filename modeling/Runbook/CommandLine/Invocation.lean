import Runbook.Number.Numeral
import Runbook.Variables
/-! The arguments of the program: a port, a control file, an action, and variables. -/
namespace Runbook

structure Invocation where
  /-- The port of the shell. -/
  port : Option Nat
  controlFile : Option String
  action : Option String
  vars : Variables

namespace Invocation

def empty : Invocation := ⟨none, none, none, .empty⟩

/-- An argument that is no assignment names the control file, and later ones the action. -/
def add (i : Invocation) (arg : String) : Invocation :=
  match i.vars.assign? arg with
  | some vars => { i with vars }
  | none =>
    if i.controlFile.isNone then { i with controlFile := some arg }
    else { i with action := some arg }

def isNumeral (arg : String) : Bool := !arg.isEmpty && arg.toList.all Numeral.isDigit

/-- Only the first argument can be the port; it is one when it consists of digits. -/
def read : List String → Except NumeralFault Invocation
  | [] => .ok empty
  | first :: rest =>
    if isNumeral first then
      (Numeral.natural Numeral.maxUnsigned16 first.toList).map fun port =>
        rest.foldl add { empty with port := some port }
    else .ok ((first :: rest).foldl add empty)

end Invocation

end Runbook
