import Runbook.Run.Iteration
import Runbook.Run.Outlet
/-! Running an action. Its target is a block of actions, a command or the name of another
action; its modifiers say where it writes, how often it runs and what becomes of failures. -/
namespace Runbook

namespace Action

def notFound (action : String) : String :=
  "Action '" ++ action ++ "' not found in the control file"

/-- Runs actions one after the other as long as they succeed. -/
def block (run : Runner) (call : Call) : List String → Body
  | [], frame, w => .done (.ok true, frame) w
  | name :: rest, frame, w =>
    (run { call with action := name } frame w).bind fun (answer, frame) w =>
      match answer with
      | .ok true => block run call rest frame w
      | other => .done (other, frame) w

/-- Carries out a command, and tells when it fails. -/
def command (perform : Performer) (e : Engine) (c : Command) (args : List String) (sink : Sink)
    (w : World) : Course World Answer :=
  (w.tell (.started c args)).bind fun _ w =>
    ((perform e c args sink w).under (.command c)).bind fun answer w =>
      match answer with
      | .ok success => .done (.ok success) w
      | .error f => (w.tell (.raised f)).map fun _ => .error f

/-- Runs the target of an action once. A target with a blank in it is a block, even if it has
no word; commands go before actions, and an action is no alias of itself. -/
def dispatch (perform : Performer) (e : Engine) (call : Call) : Body := fun frame w =>
  let target := frame.control.target call.action frame.vars
  if Text.hasBlank target then block e.run call (Text.words target) frame w
  else
    match w.command? target with
    | some c =>
      (command perform e c (frame.control.arguments call.action frame.vars) call.sink w).map
        fun answer => (answer, frame)
    | none =>
      if target ≠ call.action then e.run { call with action := target } frame w
      else (w.sayLine call.sink (notFound call.action)).map fun _ => (.ok false, frame)

/-- The call as its parts see it: they report no failure that a policy outside may match. -/
def inner (call : Call) (p : Policy) : Call := { call with throws := call.throws || p.catches }

def warn (call : Call) (plan : Plan) (w : World) : Course World Unit :=
  match plan.warning with
  | some text => w.sayLine call.sink text
  | none => .done () w

/-- Carries out an action that writes to the sink of the call. Without a plan it does nothing
but say so. -/
def carryOut (perform : Performer) (e : Engine) (call : Call) (d : Descriptor) : Body :=
  fun frame w =>
  match Plan.resolve d with
  | .error fault => (w.sayLine call.sink (fault.message d.name)).map fun _ => (.ok false, frame)
  | .ok plan =>
    ((warn call plan w).bind fun _ w => w.postpone plan.postponeUntil).bind fun _ w =>
      Iteration.all call d.loopName plan (dispatch perform e (inner call plan.policy)) e.limit
        frame w

/-- Runs a body with an empty text of its own, which becomes the value of the variable on
success. The caller's text stays as it was. -/
def capturing (name : String) (body : Body) : Body := fun frame w =>
  (collecting (body frame) w).map fun ((answer, frame), text) =>
    match answer with
    | .ok true => (answer, frame.setVar name (Text.trimEnd text))
    | _ => (answer, frame)

/-- Runs a body with an outlet. -/
def through (body : Sink → Body) (caller : Sink) (outlet : Outlet) : Body :=
  match outlet with
  | .capture name => capturing name (body (outlet.sink caller))
  | _ => body (outlet.sink caller)

/-- Starts the repetition in the background that the plan asks for. -/
def schedule (d : Descriptor) (frame : Frame) (w : World) : World :=
  match (Plan.resolve d).toOption.bind (·.every) with
  | some interval => w.repeatAction d.name frame interval
  | none => w

/-- What an invocation does once its output is open. -/
def invokeThrough (perform : Performer) (e : Engine) (call : Call) (d : Descriptor)
    (outlet : Outlet) : Body := fun frame w =>
  ((through (fun sink => carryOut perform e { call with sink } d) call.sink outlet frame w).under
    (.action ⟨d, outlet⟩)).bind fun (answer, frame) w =>
      match answer with
      | .ok true => .done (.ok true, frame) (schedule d frame w)
      | other => .done (other, frame) w

/-- One invocation of an action. -/
def invoke (perform : Performer) (e : Engine) (call : Call) : Body := fun frame w =>
  let d := Descriptor.read frame.control call.action frame.vars
  ((w.count "actions.executed").tell (.invoked d)).bind fun _ w =>
    (Outlet.resolve d call.sink frame w).bind fun (outlet?, frame) w =>
      match outlet? with
      | none => .done (.ok false, frame) w
      | some outlet => invokeThrough perform e call d outlet frame w

/-- Runs actions that are nested less than `steps` deep, in loops that go round no more often
than that. -/
def runner (perform : Performer) : Nat → Runner
  | 0 => fun _ _ _ => .stuck
  | steps + 1 => fun call frame w =>
    invoke perform ⟨runner perform steps, steps⟩ call frame w

def engine (perform : Performer) (steps : Nat) : Engine := ⟨runner perform steps, steps⟩

end Action

end Runbook
