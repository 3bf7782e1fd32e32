import Runbook.Action.Plan
import Runbook.Command.Catalogue
/-! What happens in runs, and what it is part of. -/
namespace Runbook

/-- Where an action writes. -/
inductive Sink where
  /-- The text of the caller. -/
  | text
  /-- The console of the program. -/
  | console
  /-- The end of a file. -/
  | file (path : String)
  deriving DecidableEq, Repr

/-- Where the output of an action goes instead of its caller's. -/
inductive Outlet where
  | caller
  | file (path : String)
  /-- The text becomes the value of a variable when the action succeeds. -/
  | capture (name : String)
  deriving DecidableEq, Repr

/-- The sink of an action whose caller writes to a sink. -/
def Outlet.sink (caller : Sink) : Outlet → Sink
  | .caller => caller
  | .file path => .file path
  | .capture _ => .text

/-- What an action or a command comes to: success, a failure that has been reported, or one
that has not. -/
abbrev Answer := Except Failure Bool

/-- An action that is being carried out. -/
structure Level where
  descriptor : Descriptor
  outlet : Outlet
  deriving DecidableEq, Repr

/-- What an event is part of. -/
inductive Layer where
  /-- An action, from its plan to the end of its loop. -/
  | action (level : Level)
  /-- The target of an action in one iteration. -/
  | round (index : Nat)
  /-- A command, with all that it runs. -/
  | command (command : Command)
  deriving DecidableEq, Repr

inductive Happening where
  | invoked (descriptor : Descriptor)
  /-- The loop of an action turns to an iteration. -/
  | turned (index : Nat)
  | started (command : Command) (args : List String)
  /-- A command has failed. -/
  | raised (failure : Failure)
  | wrote (sink : Sink) (text : String)
  | shutDown
  /-- The loop of an action has come to its end. -/
  | finished (answer : Answer)

/-- Something that happens in a run, with what it is part of from the outside in. -/
structure Event where
  layers : List Layer
  what : Happening

/-- An event as it is seen from outside of a further layer. -/
def Event.under (layer : Layer) (e : Event) : Event := { e with layers := layer :: e.layers }

end Runbook
