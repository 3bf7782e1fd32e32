import Runbook.Proofs.Path
import Runbook.Run.Engine
/-! Two courses in lockstep: the same happens in both, and they wait for the same in the same
states, up to tails that a relation takes over from there. -/
namespace Runbook.Course

variable {σ α β γ δ : Type} {R : Course σ α → Course σ β → Prop}
  {S : Course σ γ → Course σ δ → Prop}

inductive Lockstep (R : Course σ α → Course σ β → Prop) : Course σ α → Course σ β → Prop
  | stuck : Lockstep R stuck stuck
  | tail {c : Course σ α} {d : Course σ β} (related : R c d) : Lockstep R c d
  | note {e : Event} {s : σ} {next : Unit → Course σ α} {more : Unit → Course σ β}
      (rest : Lockstep R (next ()) (more ())) : Lockstep R (note e s next) (note e s more)
  | wait {reason : Wait} {s : σ} {next : σ → Course σ α} {more : σ → Course σ β}
      (rest : ∀ now, Lockstep R (next now) (more now)) :
      Lockstep R (wait reason s next) (wait reason s more)

theorem Lockstep.bind {c : Course σ α} {d : Course σ β} {f : α → σ → Course σ γ}
    {g : β → σ → Course σ δ} (h : Lockstep R c d)
    (tails : ∀ c d, R c d → Lockstep S (c.bind f) (d.bind g)) :
    Lockstep S (c.bind f) (d.bind g) := by
  induction h with
  | stuck => exact .stuck
  | tail related => exact tails _ _ related
  | note _ ih => exact .note ih
  | wait _ ih => exact .wait ih

/-- What comes before may be the same course. -/
theorem Lockstep.bind_left (c : Course σ α) {f : α → σ → Course σ γ} {g : α → σ → Course σ δ}
    (h : ∀ a s, Lockstep S (f a s) (g a s)) : Lockstep S (c.bind f) (c.bind g) := by
  induction c with
  | stuck => exact .stuck
  | done => exact h _ _
  | note _ _ _ ih => exact .note (ih ())
  | wait _ _ _ ih => exact .wait ih

theorem Lockstep.under {T : Course σ α → Course σ β → Prop} {c : Course σ α} {d : Course σ β}
    {layer : Layer} (h : Lockstep R c d)
    (tails : ∀ c d, R c d → T (c.under layer) (d.under layer)) :
    Lockstep T (c.under layer) (d.under layer) := by
  induction h with
  | stuck => exact .stuck
  | tail related => exact .tail (tails _ _ related)
  | note _ ih => exact .note ih
  | wait _ ih => exact .wait ih

theorem Lockstep.underText {R : Course World α → Course World β → Prop}
    {T : Course World (α × String) → Course World (β × String) → Prop} {c : Course World α}
    {d : Course World β} (h : Lockstep R c d)
    (tails : ∀ c d outer, R c d → T (c.underText outer) (d.underText outer)) (outer : String) :
    Lockstep T (c.underText outer) (d.underText outer) := by
  induction h generalizing outer with
  | stuck => exact .stuck
  | tail related => exact .tail (tails _ _ _ related)
  | note _ ih => exact .note (ih outer)
  | wait _ ih => exact .wait fun now => ih _ now.text

/-- Where one of the two comes to its end, the other has come along with it up to the tails. -/
theorem Lockstep.ends_left {c : Course σ α} {d : Course σ β} (h : Lockstep R c d)
    {path : List (Step σ)} {a : α} {s : σ} (ends : c.Ends path a s) :
    ∃ shared rest c' d', path = shared ++ rest ∧ d.Reaches shared d' ∧ R c' d' ∧
      c.Reaches shared c' ∧ c'.Ends rest a s := by
  induction h generalizing path with
  | stuck => simp at ends
  | tail related => exact ⟨[], path, _, _, rfl, .here, related, .here, ends⟩
  | note _ ih =>
    obtain ⟨path, rfl, later⟩ := ends_note.mp ends
    obtain ⟨shared, rest, c', d', rfl, hd, related, hc, last⟩ := ih later
    exact ⟨_ :: shared, rest, c', d', rfl, .note hd, related, .note hc, last⟩
  | wait _ ih =>
    obtain ⟨now, path, rfl, later⟩ := ends_wait.mp ends
    obtain ⟨shared, rest, c', d', rfl, hd, related, hc, last⟩ := ih now later
    exact ⟨_ :: shared, rest, c', d', rfl, .wait hd, related, .wait hc, last⟩

end Runbook.Course
