import Runbook.Run.Course
/-! Loops over a value. A loop goes through the indices from zero as long as there is another
one and no round stops it. -/
namespace Runbook

/-- What one round of a loop came to. -/
inductive Round (α β : Type) where
  | next (value : β)
  | stop (result : α) (value : β)

/-- Goes round from `index` on, no more than `limit` times. A loop that runs out of indices
gives `done`; it is stuck when a round is or the limit is reached. -/
def loop {σ α β : Type} (has : Nat → Bool) (round : Nat → β → σ → Course σ (Round α β))
    (done : α) : Nat → Nat → β → σ → Course σ (α × β)
  | 0, _, _, _ => .stuck
  | limit + 1, index, b, s =>
    if has index then
      (round index b s).bind fun r s =>
        match r with
        | .next b => loop has round done limit (index + 1) b s
        | .stop result b => .done (result, b) s
    else .done (done, b) s

theorem loop_succ {σ α β : Type} {has : Nat → Bool} {round : Nat → β → σ → Course σ (Round α β)}
    {done : α} {limit index : Nat} {b : β} {s : σ} (h : has index = true) :
    loop has round done (limit + 1) index b s =
      (round index b s).bind fun r s =>
        match r with
        | .next b => loop has round done limit (index + 1) b s
        | .stop result b => .done (result, b) s := by
  simp only [loop, h, ↓reduceIte]

end Runbook
