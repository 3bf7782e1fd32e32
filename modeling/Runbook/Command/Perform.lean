import Runbook.Command.Request
import Runbook.Number.Power
import Runbook.Run.Action
import Runbook.TimeFormat
/-! Carrying out commands. A command succeeds, fails after it has said why, or fails with a
failure of some kind. -/
namespace Runbook

namespace Request

def defaultTimeFormat : String := "%Y-%m-%d %H:%M:%S%.3f"

/-- The action that a control file is run with when none is named. -/
def defaultAction : String := "actions"

def describe (catalogue : List Command) : Option String → Bool × List String
  | none => (true, "Available commands:" :: Command.listing catalogue)
  | some name =>
    match Command.find? catalogue name with
    | some c => (true, [c.name ++ " " ++ c.usage, "    " ++ c.description])
    | none => (false, ["Unknown command: " ++ name])

/-- The failure that is asked for. -/
def failure (kind? : Option String) (words : List String) : Failure :=
  let detail := if words.isEmpty then "failed on request" else String.intercalate " " words
  match kind? with
  | none => ⟨.runtime, detail⟩
  | some text =>
    match Kind.ofName? text with
    | some kind => ⟨kind, detail⟩
    | none => ⟨.illegalArgument, Kind.unknown text⟩

/-- The action and the variables of a run: assignments anywhere, and the last of the other
arguments. -/
def actionAndVariables (args : List String) : String × Variables :=
  args.foldl (fun (action, vars) arg =>
    match vars.assign? arg with
    | some vars => (action, vars)
    | none => (arg, vars)) (defaultAction, .empty)

def cannotRead (path : String) (fault : PathFault) : String :=
  "Cannot read control file '" ++ path ++ "': " ++ fault.message

/-- Runs an action of the control file at a path. -/
def runFile (e : Engine) (path : String) (rest : List String) (sink : Sink) (w : World) :
    Course World Answer :=
  match w.files.readText path with
  | .error fault => (w.sayLine sink (cannotRead path fault)).map fun _ => .ok false
  | .ok text =>
    let (action, vars) := actionAndVariables rest
    (e.runControl (ControlFile.parse text) action vars sink w).map Prod.fst

def interruptedSleep : Failure := ⟨.interrupted, "sleep interrupted by shutdown"⟩

def sleepFor (milliseconds : String) (w : World) : Course World Answer :=
  match Numeral.unsigned64? (Text.trim milliseconds) with
  | none =>
    .done (.error ⟨.illegalArgument, "not a number of milliseconds: " ++ milliseconds⟩) w
  | some n =>
    (w.sleep n).map fun undisturbed =>
      if undisturbed then .ok true else .error interruptedSleep

def showTime (format : String) (sink : Sink) (w : World) : Course World Answer :=
  match TimeFormat.format? w.clock.moment format with
  | some text => (w.sayLine sink text).map fun _ => .ok true
  | none => .done (.error ⟨.illegalArgument, "invalid time format: " ++ format⟩) w

def showFilter (filter? : Option String) (sink : Sink) (w : World) : Course World Answer :=
  match filter? with
  | none => (w.sayLine sink w.logFilter.display).map fun _ => .ok true
  | some text =>
    match LogFilter.read text with
    | .error fault =>
      .done (.error ⟨.illegalArgument,
        "invalid log filter '" ++ text ++ "': " ++ fault.message⟩) w
    | .ok filter =>
      ({ w with logFilter := filter }.sayLine sink filter.display).map fun _ => .ok true

/-- Asks the bench, and writes what it answers. -/
def onBench (request : Bench.Request) (sink : Sink) (w : World) : Course World Answer :=
  match w.bench.carryOut w.files request with
  | (.ok text, after) => ({ w with bench := after }.say sink text).map fun _ => .ok true
  | (.error f, after) => .done (.error f) { w with bench := after }

/-- Says so, and triggers the shutdown. -/
def shutDown (sink : Sink) (w : World) : Course World Answer :=
  (w.sayLine sink "Shutting down").bind fun _ w =>
    (w.shutDown.tell .shutDown).map fun _ => .ok true

def perform (e : Engine) (sink : Sink) (w : World) : Request → Course World Answer
  | .help name? =>
    let (found, lines) := describe w.catalogue name?
    (w.sayLines sink lines).map fun _ => .ok found
  | .echo words => (w.sayLine sink (String.intercalate " " words)).map fun _ => .ok true
  | .sleep milliseconds => sleepFor milliseconds w
  | .currentTime format? => showTime (format?.getD defaultTimeFormat) sink w
  | .controlFile path rest => runFile e path rest sink w
  | .fail kind? words => .done (.error (failure kind? words)) w
  | .quit => shutDown sink w
  | .loggingLevel filter? => showFilter filter? sink w
  | .bench request => onBench request sink w

end Request

namespace Command

/-- Carries out a command; a wrong number of arguments is answered with its usage. -/
def perform : Performer := fun e c args sink w =>
  match Request.read c args with
  | some request => request.perform e sink w
  | none => (w.sayLines sink (c.wrongCount args.length)).map fun _ => .ok false

end Command

/-- The engine of every front end. No run comes near its bound. -/
def Engine.standard : Engine := Action.engine Command.perform (tenTo 15)

end Runbook
