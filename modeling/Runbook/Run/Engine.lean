import Runbook.Run.Course
import Runbook.Run.World
/-! How runs call one another, and how they wait. -/
namespace Runbook

/-- An action to run. -/
structure Call where
  action : String
  sink : Sink
  /-- Whether a failure that no policy handles goes to the caller. -/
  throws : Bool
  deriving DecidableEq, Repr

/-- Runs actions. -/
abbrev Runner := Call → Frame → World → Course World (Answer × Frame)

/-- What an action in progress has at hand. -/
structure Engine where
  /-- Runs the actions it consists of. -/
  run : Runner
  /-- How often one loop may go round. -/
  limit : Nat

/-- Carries out commands. -/
abbrev Performer := Engine → Command → List String → Sink → World → Course World Answer

namespace World

/-- Lets others know what has led to a world. -/
def tell (w : World) (what : Happening) : Course World Unit :=
  .note ⟨[], what⟩ w fun _ => .done () w

def say (w : World) (sink : Sink) (text : String) : Course World Unit :=
  (w.write sink text).tell (.wrote sink text)

def sayLine (w : World) (sink : Sink) (line : String) : Course World Unit :=
  w.say sink (line ++ "\n")

def sayLines (w : World) (sink : Sink) : List String → Course World Unit
  | [] => .done () w
  | line :: rest => (w.sayLine sink line).bind fun _ w => w.sayLines sink rest

/-- Waits. Operations in the background come to their end meanwhile. -/
def await (w : World) (reason : Wait) : Course World Unit :=
  .wait reason w.settle fun w => .done () w

/-- Waits for so many milliseconds. -/
def pause (w : World) (milliseconds : Nat) : Course World Unit :=
  if milliseconds = 0 then .done () w else w.await ⟨some (w.now + milliseconds), false⟩

/-- Waits like `pause`, but ends with the shutdown; the answer is whether it did not. -/
def sleep (w : World) (milliseconds : Nat) : Course World Bool :=
  if w.shutdown then .done false w
  else (w.await ⟨some (w.now + milliseconds), true⟩).bind fun _ w => .done (!w.shutdown) w

/-- Waits until a time of the same day, unless it is over. -/
def postpone (w : World) (time? : Option TimeOfDay) : Course World Unit :=
  match time? with
  | some time => w.pause (time.wait w.clock.timeOfDay)
  | none => .done () w

/-- Waits for the shutdown. -/
def awaitShutdown (w : World) : Course World Unit :=
  if w.shutdown then .done () w else w.await ⟨none, true⟩

end World

/-- Puts the text of a caller in the place of a run's own. The caller's text stays in place as
the run goes on, and may grow while it waits; the run's own text comes with its result. -/
def Course.underText {α : Type} (outer : String) : Course World α → Course World (α × String)
  | stuck => stuck
  | done a w => done (a, w.text) { w with text := outer }
  | note event w next => note event { w with text := outer } fun u => (next u).underText outer
  | wait reason w next =>
    wait reason { w with text := outer } fun now =>
      (next { now with text := w.text }).underText now.text

/-- Gives the text of a run as well, which begins with an empty one. The caller's text stays as
it was. -/
def collecting {α : Type} (run : World → Course World α) (w : World) :
    Course World (α × String) :=
  (run { w with text := "" }).underText w.text

/-- A repeated action in the background: it waits and runs, again and again, until the shutdown
ends a wait. It keeps its variables and output files from run to run. If the shutdown has come by
the end of the pause it counts, and there is no further run. -/
def Repetition.course (run : Runner) (action : String) : Nat → Repetition → World →
    Course World Unit
  | 0, _, _ => .stuck
  | rounds + 1, r, w =>
    .wait ⟨some (w.now + r.pause), true⟩ w fun w =>
      if w.shutdown then .done () w
      else
        (run ⟨action, .console, false⟩ r.frame w).bind fun (_, frame) w =>
          course run action rounds { r with frame } w.settle

namespace Engine

/-- What is said of a failure that a run on its own lets out. -/
def escaped (action : String) (f : Failure) : String :=
  "Internal consistency error in action '" ++ action ++ "': " ++ f.message

/-- Runs an action of a control file on its own: failures are reported, and output files are
opened anew. -/
def runControl (e : Engine) (control : ControlFile) (action : String) (vars : Variables)
    (sink : Sink) (w : World) : Course World (Answer × Variables) :=
  (e.run ⟨action, sink, false⟩ (.fresh control vars) w).map fun (answer, frame) =>
    (answer, frame.vars)

end Engine

end Runbook
