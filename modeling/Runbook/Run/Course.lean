import Runbook.Run.Event
/-! Courses of runs over a state: what a run comes to, what happens in it, and where it waits on
the way. While it waits, others may change the state. -/
namespace Runbook

/-- What ends a wait. -/
structure Wait where
  /-- In milliseconds since the start. -/
  moment : Option Nat
  /-- Whether the shutdown ends the wait as well. -/
  heedsShutdown : Bool
  deriving DecidableEq, Repr

inductive Course (σ α : Type) where
  /-- The run does not come to its end. -/
  | stuck
  | done (result : α) (state : σ)
  /-- Something happens, which leaves a state behind, and the run goes on at once. -/
  | note (event : Event) (state : σ) (next : Unit → Course σ α)
  /-- The run waits, and goes on in the state that it finds then. -/
  | wait (reason : Wait) (state : σ) (next : σ → Course σ α)

namespace Course

variable {σ α β γ : Type}

/-- One course after the other. -/
def bind : Course σ α → (α → σ → Course σ β) → Course σ β
  | stuck, _ => stuck
  | done a s, f => f a s
  | note event s next, f => note event s fun u => (next u).bind f
  | wait reason s next, f => wait reason s fun s => (next s).bind f

def map (f : α → β) (c : Course σ α) : Course σ β := c.bind fun a s => done (f a) s

/-- A course as a part of something. -/
def under (layer : Layer) : Course σ α → Course σ α
  | stuck => stuck
  | done a s => done a s
  | note event s next => note (event.under layer) s fun u => (next u).under layer
  | wait reason s next => wait reason s fun s => (next s).under layer

@[simp] theorem bind_done (a : α) (s : σ) (f : α → σ → Course σ β) :
    (done a s).bind f = f a s := rfl

@[simp] theorem bind_stuck (f : α → σ → Course σ β) : (stuck : Course σ α).bind f = stuck := rfl

theorem bind_assoc (c : Course σ α) (f : α → σ → Course σ β) (g : β → σ → Course σ γ) :
    (c.bind f).bind g = c.bind fun a s => (f a s).bind g := by
  induction c with
  | stuck => rfl
  | done => rfl
  | note event s next ih => simp [bind, ih]
  | wait reason s next ih => simp [bind, ih]

end Course

end Runbook
