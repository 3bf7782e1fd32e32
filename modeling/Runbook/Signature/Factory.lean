import Runbook.Object
import Runbook.Signature.Expression
/-! Values built from signatures. A name that is not called stands for a stored instance, a
constructor without arguments or a constant, whichever is there first. A signature that fails
makes no object. -/
namespace Runbook

abbrev Instances := Table Value

namespace Signature

inductive Constructor where
  | list
  | text
  | int
  | float
  | counter
  | collection
  deriving DecidableEq, Repr

namespace Constructor

def all : List Constructor := [list, text, int, float, counter, collection]

def name : Constructor → String
  | list => "List"
  | text => "Str"
  | int => "Int"
  | float => "Float"
  | counter => "Counter"
  | collection => "Collection"

end Constructor

/-- Why a constructor refuses its arguments. -/
inductive Refusal where
  | wantsOne (constructor : Constructor) (given : Nat)
  | wantsAtMostOne (constructor : Constructor) (given : Nat)
  | notInteger (shown : String)
  | notNumber (shown : String)
  deriving DecidableEq, Repr

def Refusal.message : Refusal → String
  | wantsOne c n => c.name ++ " takes exactly one argument, got " ++ toString n
  | wantsAtMostOne c n => c.name ++ " takes at most one argument, got " ++ toString n
  | notInteger shown => "not an integer: " ++ shown
  | notNumber shown => "not a number: " ++ shown

/-- Why a signature builds nothing. -/
inductive BuildFault where
  | misspelt (fault : Fault)
  | unknown (name : String)
  | refused (name : String) (refusal : Refusal)
  deriving DecidableEq

namespace BuildFault

/-- What the factory says of the signature. -/
def message (signature : String) : BuildFault → String
  | misspelt fault => "Invalid signature '" ++ signature ++ "': " ++ fault.message
  | unknown name => "No such instantiator: " ++ name
  | refused name refusal => "Cannot instantiate '" ++ name ++ "': " ++ refusal.message

def toFailure (signature : String) : BuildFault → Failure
  | misspelt fault =>
    ⟨.illegalArgument, "invalid signature '" ++ signature ++ "': " ++ fault.message⟩
  | unknown name => ⟨.noSuchInstantiator, name⟩
  | refused name refusal => ⟨.instantiation, name ++ ": " ++ refusal.message⟩

end BuildFault

namespace Constructor

/-- What a constructor makes of its arguments. -/
def construct (objects : Objects) (c : Constructor) (args : List Value) :
    Except Refusal (Value × Objects) :=
  match c, args with
  | list, args => .ok (.list args, objects)
  | text, [v] => .ok (.text (objects.display v), objects)
  | int, [v] =>
    match v.asInt? with
    | some n => .ok (.int n, objects)
    | none => .error (.notInteger (objects.display v))
  | float, [v] =>
    match v.asFloat? with
    | some x => .ok (.float x, objects)
    | none => .error (.notNumber (objects.display v))
  | counter, [] => .ok (objects.add (.counter 0))
  | counter, [v] =>
    match v.asInt? with
    | some n => .ok (objects.add (.counter n))
    | none => .error (.notInteger (objects.display v))
  | counter, args => .error (.wantsAtMostOne counter args.length)
  | collection, args => .ok (objects.add (.collection args))
  | c, args => .error (.wantsOne c args.length)

end Constructor

structure Factory where
  constructors : List Constructor
  constants : Table Value

namespace Factory

/-- A factory that knows no type and no constant. -/
def empty : Factory := ⟨[], .empty⟩

/-- All constructors, and the ends of the integer range as constants. -/
def standard : Factory :=
  ⟨Constructor.all,
    .ofList [("MAX_INT", .int Int64.maxValue), ("MIN_INT", .int Int64.minValue)]⟩

def constructor? (f : Factory) (name : String) : Option Constructor :=
  f.constructors.find? (·.name = name)

def addConstant (f : Factory) (name : String) (v : Value) : Factory :=
  { f with constants := f.constants.set name v }

def construct (f : Factory) (objects : Objects) (name : String) (args : List Value) :
    Except BuildFault (Value × Objects) :=
  match f.constructor? name with
  | none => .error (.unknown (name ++ "(" ++ toString args.length ++ " args)"))
  | some c => (c.construct objects args).mapError (.refused name)

/-- What a name stands for when it is not called. -/
def resolve (f : Factory) (instances : Instances) (objects : Objects) (name : String) :
    Except BuildFault (Value × Objects) :=
  match instances.get? name with
  | some v => .ok (v, objects)
  | none =>
    if (f.constructor? name).isSome then f.construct objects name []
    else
      match f.constants.get? name with
      | some v => .ok (v, objects)
      | none => .error (.unknown name)

mutual

def evaluate (f : Factory) (instances : Instances) :
    Expression → Objects → Except BuildFault (Value × Objects)
  | .text s, objects => .ok (.text s, objects)
  | .int n, objects => .ok (.int n, objects)
  | .float x, objects => .ok (.float x, objects)
  | .bool b, objects => .ok (.bool b, objects)
  | .null, objects => .ok (.null, objects)
  | .name s, objects => f.resolve instances objects s
  | .call s arguments, objects => do
    let (values, objects) ← f.evaluateAll instances arguments objects
    f.construct objects s values

/-- The values of the arguments, from the first to the last. -/
def evaluateAll (f : Factory) (instances : Instances) :
    List Expression → Objects → Except BuildFault (List Value × Objects)
  | [], objects => .ok ([], objects)
  | e :: rest, objects => do
    let (v, objects) ← f.evaluate instances e objects
    let (vs, objects) ← f.evaluateAll instances rest objects
    return (v :: vs, objects)

end

def build (f : Factory) (instances : Instances) (objects : Objects) (signature : String) :
    Except BuildFault (Value × Objects) := do
  f.evaluate instances (← (parse signature).mapError .misspelt) objects

end Factory

end Signature

end Runbook
