import Runbook.Signature.Factory
/-! Named instances: values and objects under names, listed by name. -/
namespace Runbook.Instances

def missing (name : String) : Failure := ⟨.notFound, "named instance '" ++ name ++ "'"⟩

/-- A name that is taken is refused. -/
def add (t : Instances) (name : String) (v : Value) : Except Failure Instances :=
  if t.contains name then
    .error ⟨.illegalArgument, "Named instance '" ++ name ++ "' already exists"⟩
  else .ok (t.set name v)

def require (t : Instances) (name : String) : Except Failure Value :=
  match t.get? name with
  | some v => .ok v
  | none => .error (missing name)

/-- The value of a name, and the instances without it. -/
def remove (t : Instances) (name : String) : Except Failure (Value × Instances) :=
  (t.require name).map fun v => (v, t.erase name)

end Runbook.Instances
