import Mathlib.Data.List.Forall2
import Runbook.Proofs.Counting
import Runbook.Proofs.Telling
/-! Two runs of which one does more than the other one, and nobody sees it. They say the same, wait
for the same, and leave worlds that differ in the counter of the executed actions alone. -/
namespace Runbook

open Course

namespace World

def Near (w w₀ : World) : Prop := ∃ bench, w.bench.Near bench ∧ w₀ = { w with bench }

def setting (w : World) : List Command × Bool := (w.catalogue, w.shutdown)

variable {w w₀ w₁ : World}

theorem Near.refl (w : World) : Near w w := ⟨w.bench, .refl _, rfl⟩

theorem Near.symm (h : Near w w₀) : Near w₀ w := by
  obtain ⟨bench, near, rfl⟩ := h
  exact ⟨w.bench, near.symm, rfl⟩

theorem Near.trans (h : Near w w₀) (h' : Near w₀ w₁) : Near w w₁ := by
  obtain ⟨bench, near, rfl⟩ := h
  obtain ⟨bench', near', rfl⟩ := h'
  exact ⟨bench', near.trans near', rfl⟩

theorem near_executed (w : World) : Near w (w.count "actions.executed") :=
  ⟨_, w.bench.near_executed, rfl⟩

theorem Near.executed (h : Near w w₀) :
    Near (w.count "actions.executed") (w₀.count "actions.executed") :=
  w.near_executed.symm.trans (h.trans w₀.near_executed)

theorem Near.write (h : Near w w₀) (sink : Sink) (text : String) :
    Near (w.write sink text) (w₀.write sink text) := by
  obtain ⟨bench, near, rfl⟩ := h
  cases sink <;> exact ⟨bench, near, rfl⟩

theorem Near.settle (h : Near w w₀) : Near w.settle w₀.settle := by
  obtain ⟨bench, near, rfl⟩ := h
  exact ⟨_, near.finishJobs w.files, rfl⟩

theorem Near.withText (h : Near w w₀) (text : String) : Near { w with text } { w₀ with text } := by
  obtain ⟨bench, near, rfl⟩ := h
  exact ⟨bench, near, rfl⟩

theorem Near.text (h : Near w w₀) : w₀.text = w.text := by
  obtain ⟨_, _, rfl⟩ := h
  rfl

theorem Near.setting (h : Near w w₀) : w₀.setting = w.setting := by
  obtain ⟨_, _, rfl⟩ := h
  rfl

@[simp] theorem setting_write (w : World) (sink : Sink) (text : String) :
    (w.write sink text).setting = w.setting := by
  cases sink <;> rfl

end World

/-- What tells the two runs apart: an action is repeated in the background, or the counters are
looked at. -/
def Happening.Strays : Happening → Prop
  | .invoked d => d.repeatEvery.bind Text.nonBlank ≠ none
  | .started c _ => c = .statisticsGet
  | _ => False

instance : DecidablePred Happening.Strays := fun what => by
  cases what <;> unfold Happening.Strays <;> infer_instance

namespace Course

/-- A course is mirrored by another one: both say the same and wait for the same, and come to
related results in worlds that are near. Each may tell of further things, but says nothing then. The
first course may be stuck before the other one, and nothing is asked of them once something strays or
another setting is found. -/
inductive Mirror {α β : Type} (k : List Command × Bool) (R : α → β → Prop) :
    Course World α → Course World β → Prop
  | stuck {d : Course World β} : Mirror k R stuck d
  | done {a : α} {b : β} {s s₀ : World} (near : s.Near s₀) (set : s.setting = k) (related : R a b) :
      Mirror k R (done a s) (done b s₀)
  | note {e e₀ : Event} {s s₀ : World} {next : Unit → Course World α}
      {next₀ : Unit → Course World β} (same : e₀.what = e.what)
      (rest : Mirror k R (next ()) (next₀ ())) : Mirror k R (note e s next) (note e₀ s₀ next₀)
  | left {e : Event} {s : World} {next : Unit → Course World α} {d : Course World β}
      (quiet : e.what.isWriting = false) (rest : Mirror k R (next ()) d) :
      Mirror k R (note e s next) d
  | right {e : Event} {s : World} {c : Course World α} {next : Unit → Course World β}
      (quiet : e.what.isWriting = false) (rest : Mirror k R c (next ())) :
      Mirror k R c (note e s next)
  | wait {reason : Wait} {s s₀ : World} {next : World → Course World α}
      {next₀ : World → Course World β} (near : s.Near s₀)
      (rest : ∀ now now₀, now.Near now₀ → now.setting = k → Mirror k R (next now) (next₀ now₀)) :
      Mirror k R (wait reason s next) (wait reason s₀ next₀)
  | astray {e : Event} {s : World} {next : Unit → Course World α} {d : Course World β}
      (off : s.setting ≠ k ∨ e.what.Strays) : Mirror k R (note e s next) d

variable {α β γ δ : Type} {k : List Command × Bool} {R : α → β → Prop} {Q : γ → δ → Prop}
  {c : Course World α} {d : Course World β}

theorem Mirror.bind (h : Mirror k R c d) {f : α → World → Course World γ}
    {g : β → World → Course World δ}
    (later : ∀ a b s s₀, R a b → s.Near s₀ → s.setting = k → Mirror k Q (f a s) (g b s₀)) :
    Mirror k Q (c.bind f) (d.bind g) := by
  induction h with
  | stuck => exact .stuck
  | done near set related => exact later _ _ _ _ related near set
  | note same _ ih => exact .note same ih
  | left quiet _ ih => exact .left quiet ih
  | right quiet _ ih => exact .right quiet ih
  | wait near _ ih => exact .wait near ih
  | astray off => exact .astray off

theorem Mirror.map (h : Mirror k R c d) {f : α → γ} {g : β → δ}
    (related : ∀ a b, R a b → Q (f a) (g b)) : Mirror k Q (c.map f) (d.map g) :=
  h.bind fun a b _ _ r near set => .done near set (related a b r)

/-- What is known of all that the first course comes to. -/
theorem Mirror.known (h : Mirror k R c d) {P : α → Prop}
    (known : ∀ path a w, c.Ends path a w → P a) : Mirror k (fun a b => R a b ∧ P a) c d := by
  induction h with
  | stuck => exact .stuck
  | done near set related => exact .done near set ⟨related, known [] _ _ .here⟩
  | note same _ ih => exact .note same (ih fun path a w ends => known _ a w (.note ends))
  | left quiet _ ih => exact .left quiet (ih fun path a w ends => known _ a w (.note ends))
  | right quiet _ ih => exact .right quiet (ih known)
  | wait near _ ih =>
    exact .wait near fun now now₀ found set =>
      ih now now₀ found set fun path a w ends => known _ a w (.wait ends)
  | astray off => exact .astray off

/-- What a course is part of does not matter. -/
theorem Mirror.under_left (h : Mirror k R c d) (layer : Layer) : Mirror k R (c.under layer) d := by
  induction h with
  | stuck => exact .stuck
  | done near set related => exact .done near set related
  | note same _ ih => exact .note same ih
  | left quiet _ ih => exact .left quiet ih
  | right quiet _ ih => exact .right quiet ih
  | wait near _ ih => exact .wait near ih
  | astray off => exact .astray off

theorem Mirror.under_right (h : Mirror k R c d) (layer : Layer) : Mirror k R c (d.under layer) := by
  induction h with
  | stuck => exact .stuck
  | done near set related => exact .done near set related
  | note same _ ih => exact .note same ih
  | left quiet _ ih => exact .left quiet ih
  | right quiet _ ih => exact .right quiet ih
  | wait near _ ih => exact .wait near ih
  | astray off => exact .astray off

theorem Mirror.under (h : Mirror k R c d) (layer layer₀ : Layer) :
    Mirror k R (c.under layer) (d.under layer₀) :=
  (h.under_left layer).under_right layer₀

/-- Both say the same, so that the same text is captured. -/
theorem Mirror.underText (h : Mirror k R c d) (outer : String) :
    Mirror k (fun r r₀ => R r.1 r₀.1 ∧ r₀.2 = r.2) (c.underText outer) (d.underText outer) := by
  induction h generalizing outer with
  | stuck => exact .stuck
  | done near set related => exact .done (near.withText outer) set ⟨related, near.text⟩
  | note same _ ih => exact .note same (ih outer)
  | left quiet _ ih => exact .left quiet (ih outer)
  | right quiet _ ih => exact .right quiet (ih outer)
  | @wait _ s _ _ _ near _ ih =>
    refine .wait (near.withText outer) fun now now₀ found set => ?_
    rw [near.text, found.text]
    exact ih _ _ (found.withText s.text) set now.text
  | astray off => exact .astray off

def found {σ : Type} (path : List (Step σ)) : List σ :=
  path.filterMap fun
    | .event .. => none
    | .waited _ _ now => some now

def written {σ : Type} (path : List (Step σ)) : List Happening :=
  (writings path).map Event.what

/-- Along a path the setting stays, and nothing strays. -/
def Steady (k : List Command × Bool) (path : List (Step World)) : Prop :=
  (∀ step ∈ path, step.state.setting = k) ∧ ∀ e ∈ events path, ¬ e.what.Strays

theorem found_waited {σ : Type} (reason : Wait) (s now : σ) (rest : List (Step σ)) :
    found (.waited reason s now :: rest) = now :: found rest := rfl

theorem written_event {σ : Type} (e : Event) (s : σ) (rest : List (Step σ)) :
    written (.event e s :: rest) =
      if e.what.isWriting then e.what :: written rest else written rest := by
  simp only [written, writings, events_event, List.filter_cons]
  split <;> rfl

theorem Steady.tail {step : Step World} {rest : List (Step World)} (h : Steady k (step :: rest)) :
    Steady k rest := by
  refine ⟨fun other member => h.1 other (List.mem_cons_of_mem step member),
    fun e member => h.2 e ?_⟩
  cases step with
  | event e' s => exact List.mem_cons_of_mem _ member
  | waited => exact member

/-- Where one of two such courses comes to its end, the other one does, whatever it finds in its
waits that is near to what the first one has found. -/
theorem Mirror.ends (h : Mirror k R c d) {path : List (Step World)} {a : α} {w' : World}
    (ends : c.Ends path a w') (steady : Steady k path) {nows : List World}
    (near : List.Forall₂ World.Near (found path) nows) :
    ∃ path₀ b w₀', d.Ends path₀ b w₀' ∧ found path₀ = nows ∧ written path₀ = written path ∧ R a b ∧
      w'.Near w₀' := by
  induction h generalizing path nows with
  | stuck => simp at ends
  | done same _ related =>
    obtain ⟨rfl, rfl, rfl⟩ := ends_done.mp ends
    obtain rfl := List.forall₂_nil_left_iff.mp near
    exact ⟨[], _, _, .here, rfl, rfl, related, same⟩
  | @note e e₀ _ s₀ _ _ same _ ih =>
    obtain ⟨path, rfl, later⟩ := ends_note.mp ends
    obtain ⟨path₀, b, w₀', ends₀, rfl, said, related, last⟩ := ih later steady.tail near
    refine ⟨.event e₀ s₀ :: path₀, b, w₀', .note ends₀, rfl, ?_, related, last⟩
    rw [written_event, written_event, same, said]
  | left quiet _ ih =>
    obtain ⟨path, rfl, later⟩ := ends_note.mp ends
    obtain ⟨path₀, b, w₀', ends₀, rfl, said, related, last⟩ := ih later steady.tail near
    refine ⟨path₀, b, w₀', ends₀, rfl, ?_, related, last⟩
    rw [written_event, quiet, said]
    rfl
  | @right e s _ _ quiet _ ih =>
    obtain ⟨path₀, b, w₀', ends₀, rfl, said, related, last⟩ := ih ends steady near
    refine ⟨.event e s :: path₀, b, w₀', .note ends₀, rfl, ?_, related, last⟩
    rw [written_event, quiet, said]
    rfl
  | @wait reason _ s₀ _ _ _ _ ih =>
    obtain ⟨now, path, rfl, later⟩ := ends_wait.mp ends
    rw [found_waited] at near
    obtain ⟨now₀, nows, same, others, rfl⟩ := List.forall₂_cons_left_iff.mp near
    have set : now.setting = k := steady.1 (.waited reason _ now) List.mem_cons_self
    obtain ⟨path₀, b, w₀', ends₀, rfl, said, related, last⟩ :=
      ih now now₀ same set later steady.tail others
    exact ⟨.waited reason s₀ now₀ :: path₀, b, w₀', .wait ends₀, rfl, said, related, last⟩
  | @astray e s _ _ off =>
    obtain ⟨path, rfl, later⟩ := ends_note.mp ends
    exact absurd off (by
      simpa using ⟨steady.1 (.event e s) List.mem_cons_self, steady.2 e List.mem_cons_self⟩)

end Course

end Runbook
