import Runbook.Signature.Factory
import Runbook.Text.Quoted
/-! Operations on storages, with the answers they have collected. Operations take no time on
the clock of a run. -/
namespace Runbook

inductive OperationKind where
  /-- At most `count` records of a source. -/
  | insert (source : Value) (count : Option Nat)
  | count
  | get (position : Nat)
  | search (needle : String)
  | clear

namespace OperationKind

def name : OperationKind → String
  | insert _ _ => "Insert"
  | count => "Count"
  | get _ => "Get"
  | search _ => "Search"
  | clear => "Clear"

def names : List String := ["Insert", "Count", "Get", "Search", "Clear"]

theorem name_mem_names (k : OperationKind) : k.name ∈ names := by
  cases k <;> simp [name, names]

end OperationKind

structure Operation where
  kind : OperationKind
  answer : List Value
  /-- How often it has been completed. -/
  executions : Nat

namespace Operation

def fresh (kind : OperationKind) : Operation := ⟨kind, [], 0⟩

def name (o : Operation) : String := o.kind.name

def forget (o : Operation) : Operation := { o with answer := [] }

def display (o : Operation) : String :=
  o.name ++ " (executions: " ++ toString o.executions ++ ", answer size: " ++
    toString o.answer.length ++ ", elapsed: 0 ms)"

/-- Stored instances for the arguments that name one, and the others as texts. -/
def resolveArguments (instances : Instances) (args : List String) : List Value :=
  args.map fun arg => (instances.get? arg).getD (.text arg)

def readCount (objects : Objects) (v : Value) : Except Failure Nat :=
  match v.asNat? with
  | some n => .ok n
  | none => .error ⟨.illegalArgument, "not a non-negative integer: " ++ objects.display v⟩

def readKind (instances : Instances) (objects : Objects) (type : String) (args : List String) :
    Except Failure OperationKind :=
  match type, resolveArguments instances args with
  | "Insert", [source] => .ok (.insert source none)
  | "Insert", [source, count] => (readCount objects count).map fun n => .insert source (some n)
  | "Count", [] => .ok .count
  | "Get", [position] => (readCount objects position).map .get
  | "Search", [needle] => .ok (.search (objects.display needle))
  | "Clear", [] => .ok .clear
  | type, _ =>
    if OperationKind.names.contains type then
      .error ⟨.illegalArgument,
        "wrong arguments for operation " ++ type ++ ": " ++ Text.quotedList args⟩
    else .error ⟨.noSuchInstantiator, "operation '" ++ type ++ "'"⟩

def create (instances : Instances) (objects : Objects) (type : String) (args : List String) :
    Except Failure Operation :=
  (readKind instances objects type args).map fresh

end Operation

end Runbook
