import Runbook.Command.Perform
import Runbook.CommandLine.EnvFile
import Runbook.CommandLine.Invocation
import Runbook.CommandLine.Settings
import Runbook.Run.Stage
import Runbook.Text.Terminal
/-! The program as the command line starts it: it runs one action of a control file, and goes on
while actions repeat in the background. -/
namespace Runbook.Program

/-- What the program leaves behind. -/
structure Outcome where
  exit : Nat
  stdout : String
  stderr : String
  files : FileTree

/-- What the options before the first other argument ask for. -/
inductive Task where
  | help
  | version
  /-- An option that takes no value has got one. -/
  | misused (option value : String)
  | run (args : List String)
  deriving DecidableEq, Repr

namespace Task

/-- An option by its word. -/
def ofWord? (word : String) : Option Task :=
  if word = "--help" then some help else if word = "--version" then some version else none

/-- The word of an option with an equals sign and a value behind it. -/
def ofAssignment? (arg : String) : Option Task :=
  match arg.splitOn "=" with
  | word :: value :: more =>
    (ofWord? word).map fun _ => misused word (String.intercalate "=" (value :: more))
  | _ => none

/-- One letter after a hyphen for each of the two options. -/
def ofLetter? (c : Char) : Option Task :=
  if c = 'h' then some help else if c = 'V' then some version else none

/-- Letters that are all options; the first one counts. -/
def ofLetters? : List Char → Option Task
  | '-' :: c :: rest =>
    if (c :: rest).all fun c => (ofLetter? c).isSome then ofLetter? c else none
  | _ => none

/-- What does not begin with an option is arguments, all of it; two hyphens at the front only
say that no option follows. -/
def read : List String → Task
  | [] => run []
  | first :: rest =>
    if first = "--" then run rest
    else
      (((ofWord? first).or (ofLetters? first.toList)).or (ofAssignment? first)).getD
        (run (first :: rest))

end Task

def versionText : String := "ctlrun 0.4.2\n"

def helpText : String :=
  "Control-file action interpreter\n\nUsage: ctlrun [ARGS]...\n\nArguments:\n" ++
    "  [ARGS]...  Optional shell port, control file, action and name=value variables\n\n" ++
    "Options:\n  -h, --help     Print help\n  -V, --version  Print version\n"

/-- What is said about an option with a value that it does not take. The value is shown without
what would control a terminal. -/
def misuseText (option value : String) : String :=
  "error: unexpected value '" ++ Text.Terminal.strip value ++ "' for '" ++ option ++
    "' found; no more were expected\n\nUsage: ctlrun " ++ option ++
    " [ARGS]...\n\nFor more information, try '--help'.\n"

/-- Why the program ends before its action has run, or after it has failed. -/
inductive Fault where
  | badPort (fault : NumeralFault)
  | badSettings (fault : SettingsFault)
  | unreadable (path : String) (fault : PathFault)
  | escaped (action : String) (failure : Failure)
  | cannotListen (service address : String)
  | failed
  deriving DecidableEq, Repr

namespace Fault

def message : Fault → String
  | badPort fault => fault.message
  | badSettings _ => "Invalid CTLRUN_* configuration"
  | unreadable path fault => Request.cannotRead path fault
  | escaped action failure => Engine.escaped action failure
  | cannotListen service address => "Cannot bind " ++ service ++ " to " ++ address
  | failed => "Control file run failed"

def cause? : Fault → Option String
  | badSettings fault => some fault.message
  | unreadable _ fault => some fault.message
  | escaped _ failure => some failure.message
  | cannotListen _ _ => some "Operation not supported (os error 95)"
  | badPort _ | failed => none

/-- The lines of a cause are moved in. -/
def indented (s : String) : String :=
  "    " ++ String.intercalate "\n    " (s.splitOn "\n")

def report (f : Fault) : String :=
  "Error: " ++ f.message ++ "\n" ++
    match f.cause? with
    | some cause => "\nCaused by:\n" ++ indented cause ++ "\n"
    | none => ""

end Fault

def finish (w : World) : Option Fault → Outcome
  | none => ⟨0, w.console, "", w.files⟩
  | some fault => ⟨1, w.console, fault.report, w.files⟩

def envFileName : String := ".env"

/-- The variables of the environment, with those of the file that belongs to it. -/
def environment (files : FileTree) (given : Table String) : Table String :=
  match files.read envFileName with
  | .ok content => EnvFile.extend given content
  | .error _ => given

def logVariable : String := "RUST_LOG"

/-- The filter of the log at the start. -/
def defaultFilter : LogFilter :=
  .ofDirectives [.ofLevel .info, .ofTarget "ctlrun" .debug, .ofTarget "ctlrun_core" .debug]

def initialFilter (environment : Table String) : LogFilter :=
  match (environment.get? logVariable).map LogFilter.read with
  | some (.ok filter) => filter
  | _ => defaultFilter

/-- The control file of an invocation. -/
def loadControl (files : FileTree) (path? : Option String) :
    Except Fault (Option ControlFile) :=
  match path? with
  | none => .ok none
  | some path =>
    match files.readText path with
    | .ok text => .ok (some (ControlFile.parse text))
    | .error fault => .error (.unreadable path fault)

/-- What has to be known before anything runs. -/
def prepare (files : FileTree) (environment : Table String) (args : List String) :
    Except Fault (Invocation × Settings × Option ControlFile) := do
  let invocation ← (Invocation.read args).mapError .badPort
  let settings ← (Settings.read environment.entries).mapError .badSettings
  let control? ← loadControl files invocation.controlFile
  return (invocation, settings, control?)

/-- There is no network to listen to. -/
def listen (invocation : Invocation) (s : Settings) : Except Fault Unit :=
  match invocation.port.or s.shellPort, s.httpPort with
  | some port, _ => .error (.cannotListen "shell" (s.bindAddress port))
  | none, some port => .error (.cannotListen "HTTP server" (s.bindAddress port))
  | none, none => .ok ()

/-- Lets the repeated actions run until the shutdown, where there are any, and ends what is
going on in the background. -/
def windUp (e : Engine) (s : Stage) : Option World := do
  let s ← if s.world.repetitions.isEmpty then some s
    else (s.perform e World.awaitShutdown).map Prod.snd
  let w := (← s.join e).world
  return { w with bench := (w.bench.waitJobs w.files).2 }

/-- Goes on after the action has run. -/
def conclude (e : Engine) (invocation : Invocation) (settings : Settings) (success : Bool)
    (s : Stage) : Option Outcome :=
  match listen invocation settings with
  | .error fault => some (finish s.world (some fault))
  | .ok () =>
    (windUp e s).map fun w => finish w (if success then none else some .failed)

/-- Runs the action of an invocation. -/
def runInvocation (e : Engine) (invocation : Invocation) (settings : Settings)
    (control? : Option ControlFile) (s : Stage) : Option Outcome :=
  match control? with
  | none => conclude e invocation settings true s
  | some control =>
    let action := invocation.action.getD settings.defaultAction
    match s.perform e (e.runControl control action invocation.vars .console) with
    | none => none
    | some ((.ok success, _), s) => conclude e invocation settings success s
    | some ((.error f, _), s) => some (finish s.world (some (.escaped action f)))

/-- Runs the program. There is no outcome where it would not come to its end. -/
def run (e : Engine) (clock : Clock) (files : FileTree) (given : Table String)
    (args : List String) : Option Outcome :=
  let environment := environment files given
  let w := World.fresh Command.withLog (initialFilter environment) clock files
  match Task.read args with
  | .help => some ⟨0, helpText, "", files⟩
  | .version => some ⟨0, versionText, "", files⟩
  | .misused option value => some ⟨2, "", misuseText option value, files⟩
  | .run args =>
    match prepare files environment args with
    | .error fault => some (finish w (some fault))
    | .ok (invocation, settings, control?) =>
      runInvocation e invocation settings control? (.ofWorld w)

end Runbook.Program
