import Runbook.Bench.Request
import Runbook.Command.Catalogue
/-! Commands with their arguments. What cannot be read as a request has the wrong number of
arguments; what the arguments say is judged when the request is carried out. -/
namespace Runbook

inductive Request where
  /-- Lists the commands, or describes the one that is named. -/
  | help (name? : Option String)
  | echo (words : List String)
  | sleep (milliseconds : String)
  | currentTime (format? : Option String)
  /-- Runs an action of another control file; the rest names it and its variables. -/
  | controlFile (path : String) (rest : List String)
  | fail (kind? : Option String) (words : List String)
  | quit
  /-- Shows the filter of the log, after it is replaced if that is asked. -/
  | loggingLevel (filter? : Option String)
  | bench (request : Bench.Request)
  deriving DecidableEq, Repr

namespace Request

def read : Command → List String → Option Request
  | .help, [] => some (.help none)
  | .help, [name] => some (.help name)
  | .echo, words => some (.echo words)
  | .sleep, [milliseconds] => some (.sleep milliseconds)
  | .currentTime, [] => some (.currentTime none)
  | .currentTime, [format] => some (.currentTime format)
  | .controlFile, path :: rest => some (.controlFile path rest)
  | .fail, [] => some (.fail none [])
  | .fail, kind :: words => some (.fail kind words)
  | .quit, [] => some .quit
  | .algorithmStart, type :: args => some (.bench (.startStorage type args))
  | .algorithmStop, [] => some (.bench (.stopStorage none))
  | .algorithmStop, [index] => some (.bench (.stopStorage index))
  | .algorithmSelect, [index] => some (.bench (.selectStorage index))
  | .algorithmList, [] => some (.bench .listStorages)
  | .algorithmInfo, [] => some (.bench .describeStorage)
  | .operationPrepare, type :: args => some (.bench (.prepare type args))
  | .operationExecute, type :: args => some (.bench (.execute type args))
  | .operationBgExecute, type :: args => some (.bench (.executeInBackground type args))
  | .operationWaitBg, [] => some (.bench .awaitBackground)
  | .operationExecuteAgain, [] => some (.bench (.executeAgain none))
  | .operationExecuteAgain, [forgets] => some (.bench (.executeAgain forgets))
  | .operationInfo, [] => some (.bench .describeOperation)
  | .operationAnswer, [] => some (.bench (.answer none))
  | .operationAnswer, [separator] => some (.bench (.answer separator))
  | .namedInstanceAdd, [signature, name] => some (.bench (.addInstance signature name))
  | .namedInstanceReplace, [signature, name] => some (.bench (.replaceInstance signature name))
  | .namedInstanceRemove, [name] => some (.bench (.removeInstance name))
  | .namedInstanceList, [] => some (.bench .listInstances)
  | .namedInstanceEcho, [name] => some (.bench (.showInstance name))
  | .objectStreamOpen, [path, type, name] => some (.bench (.openStream path type name))
  | .objectStreamClose, [name] => some (.bench (.closeStream name))
  | .objectStreamReset, [name] => some (.bench (.resetStream name))
  | .statisticsGet, [] => some (.bench (.counters []))
  | .statisticsGet, [first] => some (.bench (.counters [first]))
  | .statisticsGet, [first, second] => some (.bench (.counters [first, second]))
  | .statisticsReset, [] => some (.bench .resetCounters)
  | .loggingLevel, [] => some (.loggingLevel none)
  | .loggingLevel, [filter] => some (.loggingLevel filter)
  | _, _ => none

/-- Every list of arguments of an accepted length is a request, and no other one is. -/
theorem isSome_read (c : Command) (args : List String) :
    (read c args).isSome = c.arity.accepts args.length := by
  rcases args with _ | ⟨a, _ | ⟨b, _ | ⟨d, _ | ⟨e, rest⟩⟩⟩⟩ <;> cases c <;>
    simp [read, Command.arity, Arity.accepts, Arity.exactly, Arity.atLeast, Arity.atMost]

end Request

end Runbook
