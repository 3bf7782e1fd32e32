import Runbook.Bench.Basic
import Runbook.Pattern.Marked
import Runbook.Pattern.Written
import Runbook.Text.Json
/-! Requests to the bench, and what it answers: the text to write, or a failure that has
written nothing. -/
namespace Runbook.Bench

inductive Request where
  | startStorage (type : String) (args : List String)
  /-- Stops the storage of that index, the selected one where there is none. -/
  | stopStorage (index? : Option String)
  | selectStorage (index : String)
  | listStorages
  | describeStorage
  | prepare (type : String) (args : List String)
  | execute (type : String) (args : List String)
  | executeInBackground (type : String) (args : List String)
  | awaitBackground
  /-- Carries the last operation out again, after its answer is forgotten if that is asked. -/
  | executeAgain (forgets? : Option String)
  | describeOperation
  | answer (separator? : Option String)
  | addInstance (signature name : String)
  | replaceInstance (signature name : String)
  | removeInstance (name : String)
  | listInstances
  | showInstance (name : String)
  | openStream (path type name : String)
  | closeStream (name : String)
  | resetStream (name : String)
  /-- The pattern and the flag of the counters, in any order. -/
  | counters (args : List String)
  | resetCounters
  deriving DecidableEq, Repr

/-- The text of lines that all end. -/
def ofLines (lines : List String) : String := String.join (lines.map (· ++ "\n"))

def readIndex (text : String) : Except Failure Nat :=
  match Numeral.unsigned64? (Text.trim text) with
  | some n => .ok n
  | none => .error ⟨.illegalArgument, "not an index: " ++ text⟩

def readFlag (text : String) : Except Failure Bool :=
  match Text.lowerAscii (Text.trim text) with
  | "true" | "yes" | "1" => .ok true
  | "false" | "no" | "0" => .ok false
  | _ => .error ⟨.illegalArgument, "not a boolean: " ++ text⟩

/-- Reads an argument that may be left out. -/
def readOptional {α : Type} (read : String → Except Failure α) :
    Option String → Except Failure (Option α)
  | some text => (read text).map some
  | none => .ok none

def StorageInfo.display (i : StorageInfo) : String :=
  toString i.index ++ ": " ++ i.name ++ " (size " ++ toString i.size ++ ")"

def startStorage (b : Bench) (type : String) (args : List String) :
    Except Failure (String × Bench) :=
  (b.start type args).map fun (index, b) =>
    (ofLines ["Algorithm " ++ type ++ " started with index " ++ toString index], b)

def stopStorage (b : Bench) (index? : Option String) : Except Failure (String × Bench) := do
  let (name, b) ← b.stop (← readOptional readIndex index?)
  return (ofLines ["Algorithm " ++ name ++ " stopped"], b)

def selectStorage (b : Bench) (index : String) : Except Failure (String × Bench) := do
  return ("", ← b.select (← readIndex index))

def listStorages (b : Bench) : String :=
  ofLines (b.storageInfos.map fun i => (if i.selected then "*" else " ") ++ i.display)

def describeStorage (b : Bench) : String :=
  match b.storageInfos.find? (·.selected) with
  | some i => ofLines [i.display]
  | none =>
    ofLines ["No algorithm selected", "Available types: " ++ String.intercalate ", " Storage.types]

/-- The last operation, where there is one. -/
def lastOperation (b : Bench) : Except Failure Operation :=
  match b.last with
  | some o => .ok o
  | none => .error ⟨.illegalState, "No operation prepared"⟩

def answerText (b : Bench) (separator : String) (o : Operation) : String :=
  String.intercalate separator (o.answer.map b.display)

def addInstance (b : Bench) (signature name : String) : Except Failure Bench := do
  let (v, b) ← b.instantiate signature
  let instances ← b.instances.add name v
  return { b with instances }

/-- Stores a new value under a name, and closes the one that was there. -/
def replaceInstance (b : Bench) (signature name : String) : Except Failure Bench := do
  let (v, b) ← b.instantiate signature
  let objects := match b.instances.get? name with
    | some previous => b.objects.close previous
    | none => b.objects
  return { b with instances := b.instances.set name v, objects }

def removeInstance (b : Bench) (name : String) : Except Failure Bench := do
  let (v, instances) ← b.instances.remove name
  return { b with instances, objects := b.objects.close v }

def listInstances (b : Bench) : String :=
  ofLines (b.instances.sorted.map fun e => e.1 ++ ": " ++ b.objects.typeName e.2)

def openStream (b : Bench) (files : FileTree) (path type name : String) :
    Except Failure Bench := do
  let type ← RecordType.read type
  let s ← RecordStream.opened files path type
  let (v, objects) := b.objects.add (.stream s)
  let instances ← b.instances.add name v
  return { b with instances, objects }

/-- The stream of a name, with its number. -/
def requireStream (b : Bench) (name : String) : Except Failure (Nat × RecordStream) := do
  let v ← b.instances.require name
  match b.objects.stream? v with
  | some found => return found
  | none =>
    throw ⟨.illegalArgument, "named instance '" ++ name ++ "' is a " ++ b.objects.typeName v ++
      ", not an object stream"⟩

def closeStream (b : Bench) (name : String) : Except Failure Bench := do
  let _ ← b.requireStream name
  b.removeInstance name

def resetStream (b : Bench) (name : String) : Except Failure Bench := do
  let (id, s) ← b.requireStream name
  return { b with objects := b.objects.set id (.stream s.reset) }

def jsonFlag : String := "--json"

/-- Which counters are asked for: those whose name the pattern matches. -/
def readFilter (args : List String) : Except Failure (String → Bool) :=
  match args.find? (· ≠ jsonFlag) with
  | none => .ok fun _ => true
  | some text =>
    match Pattern.read text with
    | .ok p => .ok p.occursIn
    | .error fault =>
      .error ⟨.illegalArgument, "invalid regex '" ++ text ++ "'" ++ fault.message⟩

/-- The counters that pass, as lines or as one object. -/
def countersText (b : Bench) (json : Bool) (passes : String → Bool) : String :=
  let counters := (b.statistics.snapshot passes).map fun e => (e.1, toString e.2.toNat)
  if json then ofLines [Text.Json.prettyObject counters]
  else ofLines (counters.map fun e => e.1 ++ " = " ++ e.2)

/-- A change that is made as a whole or not at all. -/
def settle (b : Bench) : Except Failure (String × Bench) → Except Failure String × Bench
  | .ok (text, after) => (.ok text, after)
  | .error f => (.error f, b)

/-- The same where nothing is written. -/
def settleSilent (b : Bench) (change : Except Failure Bench) : Except Failure String × Bench :=
  b.settle (change.map fun after => ("", after))

/-- Goes on with a new operation, which is the last one whatever becomes of it. -/
def withOperation (b : Bench) (type : String) (args : List String)
    (next : Operation → Bench → Except Failure String × Bench) : Except Failure String × Bench :=
  match b.prepare type args with
  | .ok (o, b) => next o b
  | .error f => (.error f, b)

def carryOut (files : FileTree) (b : Bench) : Request → Except Failure String × Bench
  | .startStorage type args => b.settle (b.startStorage type args)
  | .stopStorage index? => b.settle (b.stopStorage index?)
  | .selectStorage index => b.settle (b.selectStorage index)
  | .listStorages => (.ok b.listStorages, b)
  | .describeStorage => (.ok b.describeStorage, b)
  | .prepare type args => b.withOperation type args fun _ b => (.ok "", b)
  | .execute type args => b.withOperation type args fun o b =>
    let (result, b) := b.execute files o
    (result.map fun _ => "", b)
  | .executeInBackground type args => b.withOperation type args fun o b =>
    b.settleSilent (b.startJob o)
  | .awaitBackground =>
    let (result, b) := b.waitJobs files
    (result.map fun done => ofLines (done.map Operation.display), b)
  | .executeAgain forgets? =>
    match readOptional readFlag forgets? with
    | .error f => (.error f, b)
    | .ok forgets =>
      let (result, b) := b.executeAgain files (forgets.getD false)
      (result.map fun _ => "", b)
  | .describeOperation => (b.lastOperation.map fun o => ofLines [o.display], b)
  | .answer separator? =>
    (b.lastOperation.map fun o => ofLines [b.answerText (separator?.getD "\n") o], b)
  | .addInstance signature name => b.settleSilent (b.addInstance signature name)
  | .replaceInstance signature name => b.settleSilent (b.replaceInstance signature name)
  | .removeInstance name => b.settleSilent (b.removeInstance name)
  | .listInstances => (.ok b.listInstances, b)
  | .showInstance name => ((b.instances.require name).map fun v => ofLines [b.display v], b)
  | .openStream path type name => b.settleSilent (b.openStream files path type name)
  | .closeStream name => b.settleSilent (b.closeStream name)
  | .resetStream name => b.settleSilent (b.resetStream name)
  | .counters args => ((readFilter args).map (b.countersText (args.contains jsonFlag)), b)
  | .resetCounters => (.ok "", { b with statistics := .empty })

end Runbook.Bench
