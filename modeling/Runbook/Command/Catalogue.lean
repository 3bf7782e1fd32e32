import Runbook.Command.Arity
/-! The commands by name, with what the help says of them. -/
namespace Runbook

inductive Command where
  | help
  | echo
  | sleep
  | currentTime
  | controlFile
  | fail
  | quit
  | algorithmStart
  | algorithmStop
  | algorithmSelect
  | algorithmList
  | algorithmInfo
  | operationPrepare
  | operationExecute
  | operationBgExecute
  | operationWaitBg
  | operationExecuteAgain
  | operationInfo
  | operationAnswer
  | namedInstanceAdd
  | namedInstanceReplace
  | namedInstanceRemove
  | namedInstanceList
  | namedInstanceEcho
  | objectStreamOpen
  | objectStreamClose
  | objectStreamReset
  | statisticsGet
  | statisticsReset
  | loggingLevel
  deriving DecidableEq, Repr

namespace Command

/-- The commands of every run. -/
def standard : List Command :=
  [help, echo, sleep, currentTime, controlFile, fail, quit,
    algorithmStart, algorithmStop, algorithmSelect, algorithmList, algorithmInfo,
    operationPrepare, operationExecute, operationBgExecute, operationWaitBg,
    operationExecuteAgain, operationInfo, operationAnswer,
    namedInstanceAdd, namedInstanceReplace, namedInstanceRemove, namedInstanceList,
    namedInstanceEcho, objectStreamOpen, objectStreamClose, objectStreamReset,
    statisticsGet, statisticsReset]

/-- The commands of a program that has a log. -/
def withLog : List Command := standard ++ [loggingLevel]

def name : Command → String
  | help => "help"
  | echo => "echo"
  | sleep => "sleep"
  | currentTime => "currentTime"
  | controlFile => "controlFile"
  | fail => "fail"
  | quit => "quit"
  | algorithmStart => "algorithmStart"
  | algorithmStop => "algorithmStop"
  | algorithmSelect => "algorithmSelect"
  | algorithmList => "algorithmList"
  | algorithmInfo => "algorithmInfo"
  | operationPrepare => "operationPrepare"
  | operationExecute => "operationExecute"
  | operationBgExecute => "operationBgExecute"
  | operationWaitBg => "operationWaitBg"
  | operationExecuteAgain => "operationExecuteAgain"
  | operationInfo => "operationInfo"
  | operationAnswer => "operationAnswer"
  | namedInstanceAdd => "namedInstanceAdd"
  | namedInstanceReplace => "namedInstanceReplace"
  | namedInstanceRemove => "namedInstanceRemove"
  | namedInstanceList => "namedInstanceList"
  | namedInstanceEcho => "namedInstanceEcho"
  | objectStreamOpen => "objectStreamOpen"
  | objectStreamClose => "objectStreamClose"
  | objectStreamReset => "objectStreamReset"
  | statisticsGet => "statisticsGet"
  | statisticsReset => "statisticsReset"
  | loggingLevel => "loggingLevel"

/-- The arguments as the help shows them. -/
def usage : Command → String
  | help => "[command]"
  | echo => "[text...]"
  | sleep => "<millis>"
  | currentTime => "[format]"
  | controlFile => "<path> [action] [name=value...]"
  | fail => "[kind] [message...]"
  | algorithmStart | operationPrepare | operationExecute | operationBgExecute =>
    "<type> [args...]"
  | algorithmStop => "[index]"
  | algorithmSelect => "<index>"
  | operationExecuteAgain => "[resetAnswer]"
  | operationAnswer => "[separator]"
  | namedInstanceAdd | namedInstanceReplace => "<signature> <name>"
  | namedInstanceRemove | namedInstanceEcho | objectStreamClose | objectStreamReset => "<name>"
  | objectStreamOpen => "<file> <recordType> <name>"
  | statisticsGet => "[regex] [--json]"
  | loggingLevel => "[filter]"
  | quit | algorithmList | algorithmInfo | operationWaitBg | operationInfo | namedInstanceList
  | statisticsReset => ""

def description : Command → String
  | help => "List all commands or describe one"
  | echo => "Print the arguments"
  | sleep => "Sleep for the given number of milliseconds"
  | currentTime => "Print the current local time (strftime format)"
  | controlFile => "Run an action of another control file"
  | fail => "Raise an error of the given kind (Runtime by default)"
  | quit => "Stop the server and all background tasks"
  | algorithmStart => "Start an algorithm and select it"
  | algorithmStop => "Finalize an algorithm (the selected one by default)"
  | algorithmSelect => "Select the algorithm operations run on"
  | algorithmList => "List started algorithms"
  | algorithmInfo => "Describe the selected algorithm"
  | operationPrepare => "Create an operation without executing it"
  | operationExecute => "Create an operation and run it on the selected algorithm"
  | operationBgExecute => "Create an operation and run it in the background"
  | operationWaitBg => "Wait for all background operations"
  | operationExecuteAgain => "Run the last operation again"
  | operationInfo => "Describe the last operation"
  | operationAnswer => "Print the answer of the last operation"
  | namedInstanceAdd => "Create an object from a signature and store it under a name"
  | namedInstanceReplace => "Create an object and store it, replacing any previous one"
  | namedInstanceRemove => "Remove a named instance, closing it"
  | namedInstanceList => "List named instances and their types"
  | namedInstanceEcho => "Print a named instance"
  | objectStreamOpen => "Open a record file as a named object stream"
  | objectStreamClose => "Close a named object stream and remove it"
  | objectStreamReset => "Rewind a named object stream to its first record"
  | statisticsGet => "Print statistics counters, optionally filtered by a regex"
  | statisticsReset => "Reset all statistics counters"
  | loggingLevel => "Show or set the log filter (e.g. debug, info,ctlrun_core=trace)"

def arity : Command → Arity
  | help | currentTime | algorithmStop | operationExecuteAgain | operationAnswer
  | loggingLevel => .atMost 1
  | statisticsGet => .atMost 2
  | echo | fail => .atLeast 0
  | controlFile | algorithmStart | operationPrepare | operationExecute
  | operationBgExecute => .atLeast 1
  | sleep | algorithmSelect | namedInstanceRemove | namedInstanceEcho | objectStreamClose
  | objectStreamReset => .exactly 1
  | namedInstanceAdd | namedInstanceReplace => .exactly 2
  | objectStreamOpen => .exactly 3
  | quit | algorithmList | algorithmInfo | operationWaitBg | operationInfo | namedInstanceList
  | statisticsReset => .exactly 0

def find? (catalogue : List Command) (name : String) : Option Command :=
  catalogue.find? fun c => c.name = name

/-- Text with blanks after it up to a width. -/
def padded (width : Nat) (s : String) : String :=
  s ++ String.ofList (List.replicate (width - s.length) ' ')

/-- The line of the listing for a command. -/
def listed (c : Command) : String := "  " ++ padded 24 c.name ++ " " ++ c.description

/-- The lines of the listing by increasing name. -/
def listing (catalogue : List Command) : List String :=
  (catalogue.mergeSort fun c d => c.name ≤ d.name).map listed

/-- What is said when a command gets the wrong number of arguments. -/
def wrongCount (c : Command) (count : Nat) : List String :=
  ["Wrong number of arguments for '" ++ c.name ++ "' (expected " ++ c.arity.display ++ ", got " ++
    toString count ++ ")",
    "Usage: " ++ c.name ++ " " ++ c.usage]

end Command

end Runbook
