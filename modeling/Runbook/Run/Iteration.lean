import Runbook.Action.Plan
import Runbook.Run.Engine
import Runbook.Run.Loop
/-! The iterations of an action. What the action does in one of them, its body, is left open:
it may have any result and change everything. -/
namespace Runbook

abbrev Body := Frame → World → Course World (Answer × Frame)

namespace Iteration

def interrupted (action : String) : String := "Action '" ++ action ++ "' interrupted by shutdown"

def failed (action : String) (f : Failure) : String :=
  "Error in action '" ++ action ++ "': " ++ f.message

/-- Writes the description that a modifier gives, with the variables of this moment. -/
def describe (m : Modifier) (call : Call) (frame : Frame) (w : World) : Course World Unit :=
  match frame.control.modifier? call.action m frame.vars with
  | some text => w.sayLine call.sink text
  | none => .done () w

/-- Gives the loop variable the value of an iteration. -/
def bind (loop? : Option LoopVariable) (it : Iterations) (index : Nat) (frame : Frame) : Frame :=
  match loop? with
  | some v => { frame with vars := v.bind frame.vars (it.value index) index }
  | none => frame

def restore (loop? : Option LoopVariable) (frame : Frame) : Frame :=
  match loop? with
  | some v => { frame with vars := v.restore frame.vars }
  | none => frame

/-- What becomes of a failure of the body. -/
def settle (call : Call) (p : Policy) (f : Failure) (frame : Frame) (w : World) :
    Course World (Round Answer Frame) :=
  match p.classify f call.throws with
  | .terminate _ => .done (.stop (.ok true) frame) w
  | .ignore _ => .done (.next frame) w
  | .propagate f => .done (.stop (.error f) frame) w
  | .report f =>
    (w.sayLine call.sink (failed call.action f)).map fun _ => .stop (.ok false) frame

/-- How an iteration ends, by what the body came to. -/
def conclude (call : Call) (p : Policy) (answer : Answer) (frame : Frame) (w : World) :
    Course World (Round Answer Frame) :=
  match answer with
  | .ok true => (describe .descriptionAfter call frame w).map fun _ => .next frame
  | .ok false => .done (.stop (.ok false) frame) w
  | .error f => settle call p f frame w

/-- What an iteration does once the loop variable is bound. -/
def bodyRound (call : Call) (p : Policy) (body : Body) (index : Nat) (frame : Frame)
    (w : World) : Course World (Round Answer Frame) :=
  (describe .description call frame w).bind fun _ w =>
    ((body frame w).under (.round index)).bind fun (answer, frame) w =>
      conclude call p answer frame w

/-- One iteration. It does not begin after the shutdown. -/
def round (call : Call) (plan : Plan) (loop? : Option LoopVariable) (body : Body) (index : Nat)
    (frame : Frame) (w : World) : Course World (Round Answer Frame) :=
  (w.tell (.turned index)).bind fun _ w =>
    if w.shutdown then
      (w.sayLine call.sink (interrupted call.action)).map fun _ => .stop (.ok false) frame
    else bodyRound call plan.policy body index (bind loop? plan.iterations index frame) w

/-- The variable that the iterations bind, with what it holds before them. -/
def saved? (loopName : String) (plan : Plan) (vars : Variables) : Option LoopVariable :=
  if plan.iterations.binds then some (.save vars loopName) else none

/-- All iterations; the loop variable holds afterwards what it held before. -/
def all (call : Call) (loopName : String) (plan : Plan) (body : Body) (limit : Nat) :
    Body := fun frame w =>
  let loop? := saved? loopName plan frame.vars
  (loop plan.iterations.has (round call plan loop? body) (.ok true) limit 0 frame w).bind
    fun (answer, frame) w =>
      (w.tell (.finished answer)).map fun _ => (answer, restore loop? frame)

end Iteration

end Runbook
