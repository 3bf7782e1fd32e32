/-! How many arguments a command takes. -/
namespace Runbook

structure Arity where
  least : Nat
  /-- None where there is no limit. -/
  most : Option Nat
  deriving DecidableEq, Repr

namespace Arity

def exactly (n : Nat) : Arity := ⟨n, some n⟩

def atLeast (n : Nat) : Arity := ⟨n, none⟩

def atMost (n : Nat) : Arity := ⟨0, some n⟩

def accepts (a : Arity) (count : Nat) : Bool := a.least ≤ count && a.most.all (count ≤ ·)

def display (a : Arity) : String :=
  match a.most with
  | some most =>
    if most = a.least then toString a.least else toString a.least ++ ".." ++ toString most
  | none => toString a.least ++ "+"

end Arity

end Runbook
