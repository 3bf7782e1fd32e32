import Runbook.Bench.Instances
import Runbook.Bench.Statistics
import Runbook.Bench.Storage
/-! The bench that commands work at: instances, storages, the last operation, the operations in
the background, and the counters. -/
namespace Runbook

/-- An operation in the background. Its storage is known by number, so that it can finish on a
storage that was stopped meanwhile. -/
inductive Job where
  | running (operation : Operation) (storage : Nat)
  | finished (result : Except Failure Operation)

structure Bench where
  factory : Signature.Factory
  instances : Instances
  objects : Objects
  /-- Every storage that was started; its number is its place. -/
  storages : List Storage
  /-- The numbers of the storages that run, in the order of their start. -/
  running : List Nat
  /-- The place in `running` of the storage that operations go to. -/
  selected : Option Nat
  last : Option Operation
  /-- The operations in the background that nobody has waited for, in the order of start. -/
  jobs : List Job
  statistics : Statistics

namespace Bench

def fresh : Bench where
  factory := .standard
  instances := .empty
  objects := .empty
  storages := []
  running := []
  selected := none
  last := none
  jobs := []
  statistics := .empty

def count (b : Bench) (name : String) : Bench :=
  { b with statistics := b.statistics.increment name 1 }

def display (b : Bench) (v : Value) : String := b.objects.display v

/-- The value of a signature, and the bench with the objects that were made for it. -/
def instantiate (b : Bench) (signature : String) : Except Failure (Value × Bench) :=
  match b.factory.build b.instances b.objects signature with
  | .ok (v, objects) => .ok (v, { b with objects })
  | .error fault => .error (fault.toFailure signature)

def noneSelected : Failure := ⟨.illegalState, "No algorithm selected"⟩

def noSuchStorage (index : Nat) : Failure :=
  ⟨.notFound, "algorithm with index " ++ toString index⟩

def storage? (b : Bench) (number : Nat) : Option Storage := b.storages[number]?

/-- The place and the number of the selected storage. -/
def selectedStorage (b : Bench) : Except Failure (Nat × Nat) :=
  match b.selected.bind fun index => b.running[index]?.map fun number => (index, number) with
  | some found => .ok found
  | none => .error noneSelected

/-- Starts a storage and selects it. -/
def start (b : Bench) (type : String) (args : List String) : Except Failure (Nat × Bench) :=
  (Storage.create b.objects type (Operation.resolveArguments b.instances args)).map fun s =>
    let index := b.running.length
    (index, { b with
      storages := b.storages ++ [s]
      running := b.running ++ [b.storages.length]
      selected := some index }.count "algorithms.started")

/-- Stops a storage, the selected one where none is named. The storage that was started last
among those that stay is selected then. -/
def stop (b : Bench) (index? : Option Nat) : Except Failure (String × Bench) :=
  match index?.or b.selected with
  | none => .error noneSelected
  | some index =>
    match b.running[index]?.bind fun number => (b.storage? number).map fun s => (number, s) with
    | none => .error (noSuchStorage index)
    | some (number, s) =>
      let running := b.running.eraseIdx index
      .ok (s.name, { b with
        storages := b.storages.set number s.finalized
        running
        selected := if running.isEmpty then none else some (running.length - 1)
        }.count "algorithms.stopped")

def select (b : Bench) (index : Nat) : Except Failure Bench :=
  if index < b.running.length then .ok { b with selected := some index }
  else .error (noSuchStorage index)

structure StorageInfo where
  index : Nat
  name : String
  size : Nat
  selected : Bool
  deriving DecidableEq, Repr

def info (b : Bench) (index number : Nat) : Option StorageInfo :=
  (b.storage? number).map fun s => ⟨index, s.name, s.size, b.selected == some index⟩

/-- The storages that run, in the order of their start. -/
def storageInfos (b : Bench) : List StorageInfo :=
  (b.running.zipIdx.map fun (number, index) => b.info index number).filterMap id

/-- Makes an operation the last one without carrying it out. -/
def prepare (b : Bench) (type : String) (args : List String) :
    Except Failure (Operation × Bench) :=
  (Operation.create b.instances b.objects type args).map fun o => (o, { b with last := some o })

/-- Carries out an operation on a storage. The counters tell how it went; the last operation
is left as it is. -/
def runOn (b : Bench) (files : FileTree) (number : Nat) (o : Operation) :
    Except Failure Operation × Bench :=
  match b.storage? number with
  | none => (.error noneSelected, b)
  | some s =>
    let (result, objects) := s.run files b.objects o.kind
    let b := { b with objects }
    match result with
    | .error f => (.error f, b.count "operations.failed")
    | .ok (answer, s) =>
      let b := { b with storages := b.storages.set number s }
      let b := (b.count "operations.executed").count ("operations." ++ o.name)
      (.ok { o with answer := o.answer ++ answer, executions := o.executions + 1 },
        { b with statistics := b.statistics.addDuration "operations" 0 })

/-- Carries out an operation on the selected storage. It is the last operation from the start,
and again when it is completed. -/
def execute (b : Bench) (files : FileTree) (o : Operation) : Except Failure Operation × Bench :=
  match b.selectedStorage with
  | .error f => (.error f, b)
  | .ok (_, number) =>
    match { b with last := some o }.runOn files number o with
    | (.ok done, b) => (.ok done, { b with last := some done })
    | (.error f, b) => (.error f, b)

/-- Carries out the last operation once more. -/
def executeAgain (b : Bench) (files : FileTree) (forgets : Bool) :
    Except Failure Operation × Bench :=
  match b.last with
  | none => (.error ⟨.illegalState, "No operation prepared"⟩, b)
  | some o => b.execute files (if forgets then o.forget else o)

/-- Starts an operation in the background. -/
def startJob (b : Bench) (o : Operation) : Except Failure Bench :=
  b.selectedStorage.map fun (_, number) => { b with jobs := b.jobs ++ [.running o number] }

/-- Lets one operation in the background run to its end; a completed one is the last one. -/
def finishJob (b : Bench) (files : FileTree) (index : Nat) : Bench :=
  match b.jobs[index]? with
  | some (.running o number) =>
    let (result, b) := b.runOn files number o
    let b := { b with jobs := b.jobs.set index (.finished result) }
    match result with
    | .ok done => { b with last := some done }
    | .error _ => b
  | _ => b

/-- Lets every operation in the background run to its end, in the order of start. -/
def finishJobs (b : Bench) (files : FileTree) : Bench :=
  (List.range b.jobs.length).foldl (fun b index => b.finishJob files index) b

def Job.result? : Job → Option (Except Failure Operation)
  | .running _ _ => none
  | .finished result => some result

/-- All of the completed operations, or the failure of the one that was started first among
those that failed. -/
def joined (results : List (Except Failure Operation)) : Except Failure (List Operation) :=
  results.mapM id

/-- Waits for the operations in the background; none is left to wait for afterwards. -/
def waitJobs (b : Bench) (files : FileTree) : Except Failure (List Operation) × Bench :=
  let b := b.finishJobs files
  (joined (b.jobs.filterMap Job.result?), { b with jobs := [] })

end Bench

end Runbook
