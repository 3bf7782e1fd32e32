import Runbook.Proofs.Path
import Runbook.Run.Engine
/-! Two runs side by side that do the same but for what they write to the streams, the text and
the console, which no run reads. What one of the two says in one place, the other one says in
another place, or does not say at all. -/
namespace Runbook

namespace World

/-- What runs write and do not read. -/
def streams (w : World) : String × String := (w.text, w.console)

def Same (w w₀ : World) : Prop := ∃ text console, w₀ = { w with text, console }

variable {w w₀ w₁ : World}

theorem Same.refl (w : World) : Same w w := ⟨w.text, w.console, rfl⟩

theorem Same.symm (h : Same w w₀) : Same w₀ w := by
  obtain ⟨_, _, rfl⟩ := h
  exact ⟨w.text, w.console, rfl⟩

theorem Same.trans (h : Same w w₀) (h' : Same w₀ w₁) : Same w w₁ := by
  obtain ⟨_, _, rfl⟩ := h
  obtain ⟨text, console, rfl⟩ := h'
  exact ⟨text, console, rfl⟩

theorem Same.settle (h : Same w w₀) : Same w.settle w₀.settle := by
  obtain ⟨text, console, rfl⟩ := h
  exact ⟨text, console, rfl⟩

theorem same_withText (w : World) (text : String) : Same w { w with text } :=
  ⟨text, w.console, rfl⟩

theorem Same.withText (h : Same w w₀) (text text₀ : String) :
    Same { w with text } { w₀ with text := text₀ } :=
  (same_withText w text).symm.trans (h.trans (same_withText w₀ text₀))

end World

/-- From one world to another one a text has come to a sink, and nothing else to the streams.
Without a sink the text has come to neither of them. -/
def Adds (sink? : Option Sink) (w : World) (text : String) (w' : World) : Prop :=
  w'.streams = match sink? with
    | some sink => (w.write sink text).streams
    | none => w.streams

theorem adds_nothing {w w' : World} (sink? : Option Sink) (same : w'.streams = w.streams) :
    Adds sink? w "" w' := by
  rcases sink? with _ | (_ | _ | _) <;> simpa [Adds, World.write, World.streams] using same

theorem adds_text {w w' : World} {u : String} :
    Adds (some .text) w u w' ↔ w'.text = w.text ++ u ∧ w'.console = w.console := by
  simp [Adds, World.write, World.streams]

theorem Adds.trans {sink? : Option Sink} {w w₁ w' : World} {u v : String}
    (h : Adds sink? w u w₁) (h' : Adds sink? w₁ v w') : Adds sink? w (u ++ v) w' := by
  rcases sink? with _ | (_ | _ | _) <;>
    simp_all [Adds, World.write, World.streams, String.append_assoc]

/-- What has come to no sink is nothing for any. -/
theorem Adds.mute {w w' : World} {u : String} (h : Adds none w u w') (sink? : Option Sink) :
    Adds sink? w "" w' := adds_nothing sink? h

structure Both (left right : Option Sink) (text : String) (w s w₀ s₀ : World) : Prop where
  same : s.Same s₀
  left : Adds left w text s
  right : Adds right w₀ text s₀

section Both

variable {left right : Option Sink} {u v : String} {w s t w₀ s₀ t₀ : World}

theorem Both.trans (h : Both left right u w s w₀ s₀) (h' : Both left right v s t s₀ t₀) :
    Both left right (u ++ v) w t w₀ t₀ :=
  ⟨h'.same, h.left.trans h'.left, h.right.trans h'.right⟩

theorem both_nothing (same : s.Same s₀) (left right : Option Sink) (quiet : s.streams = w.streams)
    (quiet₀ : s₀.streams = w₀.streams) : Both left right "" w s w₀ s₀ :=
  ⟨same, adds_nothing left quiet, adds_nothing right quiet₀⟩

theorem Both.symm (h : Both left right u w s w₀ s₀) : Both right left u w₀ s₀ w s :=
  ⟨h.same.symm, h.right, h.left⟩

end Both

namespace Course

variable {α β γ δ : Type} {off : Event → Prop} {left right : Option Sink} {said : String}
  {R : String → α → β → Prop} {Q : String → γ → δ → Prop} {w w₀ : World}
  {c : Course World α} {d : Course World β}

/-- Two courses do the same from two worlds on, but for what they say: `said` is what they have said
so far, the one of them to the first sink and the other one to the second. While they wait both find
the same but for the streams, and what they come to is related. Nothing is asked of them after
events that are off. -/
inductive Twin (off : Event → Prop) (left right : Option Sink) (R : String → α → β → Prop) :
    String → World → Course World α → World → Course World β → Prop
  | stuck {said : String} {w w₀ : World} : Twin off left right R said w stuck w₀ stuck
  | done {said u : String} {w s w₀ s₀ : World} {a : α} {b : β}
      (both : Both left right u w s w₀ s₀) (related : R (said ++ u) a b) :
      Twin off left right R said w (done a s) w₀ (done b s₀)
  | note {said u : String} {w s w₀ s₀ : World} {e e₀ : Event} {next : Unit → Course World α}
      {next₀ : Unit → Course World β} (both : Both left right u w s w₀ s₀)
      (rest : Twin off left right R (said ++ u) s (next ()) s₀ (next₀ ())) :
      Twin off left right R said w (note e s next) w₀ (note e₀ s₀ next₀)
  | wait {said u : String} {w s w₀ s₀ : World} {reason : Wait} {next : World → Course World α}
      {next₀ : World → Course World β} (both : Both left right u w s w₀ s₀)
      (rest : ∀ now now₀, now.Same now₀ →
        Twin off left right R (said ++ u) now (next now) now₀ (next₀ now₀)) :
      Twin off left right R said w (wait reason s next) w₀ (wait reason s₀ next₀)
  | astray {said : String} {w s w₀ s₀ : World} {e e₀ : Event} {next : Unit → Course World α}
      {next₀ : Unit → Course World β} (isOff : off e) (isOff₀ : off e₀) :
      Twin off left right R said w (note e s next) w₀ (note e₀ s₀ next₀)

theorem Twin.symm (h : Twin off left right R said w c w₀ d) :
    Twin off right left (fun said b a => R said a b) said w₀ d w c := by
  induction h with
  | stuck => exact .stuck
  | done both related => exact .done both.symm related
  | note both _ ih => exact .note both.symm ih
  | wait both _ ih => exact .wait both.symm fun now now₀ same => ih now₀ now same.symm
  | astray isOff isOff₀ => exact .astray isOff₀ isOff

/-- What has been said before. -/
theorem Twin.before {s s₀ : World} {u : String} (both : Both left right u w s w₀ s₀)
    (h : Twin off left right R (said ++ u) s c s₀ d) : Twin off left right R said w c w₀ d := by
  cases h with
  | stuck => exact .stuck
  | done both' related => exact .done (both.trans both') (String.append_assoc ▸ related)
  | note both' rest => exact .note (both.trans both') (String.append_assoc ▸ rest)
  | wait both' rest =>
    exact .wait (both.trans both') fun now now₀ same => String.append_assoc ▸ rest now now₀ same
  | astray isOff isOff₀ => exact .astray isOff isOff₀

theorem Twin.bind (h : Twin off left right R said w c w₀ d) {f : α → World → Course World γ}
    {g : β → World → Course World δ}
    (later : ∀ said a b s s₀, R said a b → s.Same s₀ →
      Twin off left right Q said s (f a s) s₀ (g b s₀)) :
    Twin off left right Q said w (c.bind f) w₀ (d.bind g) := by
  induction h with
  | stuck => exact .stuck
  | done both related => exact .before both (later _ _ _ _ _ related both.same)
  | note both _ ih => exact .note both ih
  | wait both _ ih => exact .wait both ih
  | astray isOff isOff₀ => exact .astray isOff isOff₀

theorem Twin.map (h : Twin off left right R said w c w₀ d) {f : α → γ} {g : β → δ}
    (related : ∀ said a b, R said a b → Q said (f a) (g b)) :
    Twin off left right Q said w (c.map f) w₀ (d.map g) :=
  h.bind fun said a b _ _ r same =>
    .done (both_nothing same left right rfl rfl) (by simpa using related said a b r)

theorem Twin.under {off' : Event → Prop} {layer layer₀ : Layer}
    (h : Twin off left right R said w c w₀ d) (kept : ∀ e, off e → off' (e.under layer))
    (kept₀ : ∀ e, off e → off' (e.under layer₀)) :
    Twin off' left right R said w (c.under layer) w₀ (d.under layer₀) := by
  induction h with
  | stuck => exact .stuck
  | done both related => exact .done both related
  | note both _ ih => exact .note both ih
  | wait both _ ih => exact .wait both ih
  | astray isOff isOff₀ => exact .astray (kept _ isOff) (kept₀ _ isOff₀)

/-- Two texts that grow alike are captured as the same text, and nothing else is said. -/
theorem Twin.collected {P : α → β → Prop}
    (h : Twin off (some .text) (some .text) (fun _ => P) said w c w₀ d) (level : w.text = w₀.text)
    (left right : Option Sink) (before outer outer₀ : String) :
    Twin off left right (fun _ r r₀ => P r.1 r₀.1 ∧ r.2 = r₀.2) before
      { w with text := outer } (c.underText outer)
      { w₀ with text := outer₀ } (d.underText outer₀) := by
  have quiet : ∀ {u : String} {w s w₀ s₀ : World} (outer outer₀ : String),
      Both (some .text) (some .text) u w s w₀ s₀ → Both left right ""
        { w with text := outer } { s with text := outer }
        { w₀ with text := outer₀ } { s₀ with text := outer₀ } := fun outer outer₀ both =>
    both_nothing (both.same.withText outer outer₀) left right
      (congrArg (Prod.mk outer) (adds_text.mp both.left).2)
      (congrArg (Prod.mk outer₀) (adds_text.mp both.right).2)
  have grown : ∀ {u : String} {w s w₀ s₀ : World}, w.text = w₀.text →
      Both (some .text) (some .text) u w s w₀ s₀ → s.text = s₀.text := fun level both => by
    rw [(adds_text.mp both.left).1, (adds_text.mp both.right).1, level]
  -- Others may say something to the outer texts during a wait; the captured texts are put aside
  -- then, and so stay level.
  induction h generalizing outer outer₀ before with
  | stuck => exact .stuck
  | done both related =>
    exact .done (quiet outer outer₀ both) ⟨related, grown level both⟩
  | note both _ ih =>
    exact .note (quiet outer outer₀ both) (ih (grown level both) _ outer outer₀)
  | @wait _ _ _ s _ s₀ _ _ _ both _ ih =>
    refine .wait (quiet outer outer₀ both) fun now now₀ same => ?_
    have level : s.text = s₀.text := grown level both
    exact ih { now with text := s.text } { now₀ with text := s₀.text } (same.withText _ _)
      level _ now.text now₀.text
  | astray isOff isOff₀ => exact .astray isOff isOff₀

/-- A text that is captured is the one that the other course says; nothing of it is said here. -/
theorem Twin.muted {right : Option Sink} (h : Twin off (some .text) right R said w c w₀ d)
    (start : w.text = said) (outer : String) :
    Twin off none right (fun said r b => R said r.1 b ∧ r.2 = said) said
      { w with text := outer } (c.underText outer) w₀ d := by
  have quiet : ∀ {u : String} {w s w₀ s₀ : World} (outer : String),
      Both (some .text) right u w s w₀ s₀ →
        Both none right u { w with text := outer } { s with text := outer } w₀ s₀ :=
    fun outer both => ⟨(World.same_withText _ outer).symm.trans both.same,
      congrArg (Prod.mk outer) (adds_text.mp both.left).2, both.right⟩
  have grown : ∀ {said u : String} {w s w₀ s₀ : World}, w.text = said →
      Both (some .text) right u w s w₀ s₀ → s.text = said ++ u := fun start both => by
    rw [(adds_text.mp both.left).1, start]
  induction h generalizing outer with
  | stuck => exact .stuck
  | done both related => exact .done (quiet outer both) ⟨related, grown start both⟩
  | note both _ ih => exact .note (quiet outer both) (ih (grown start both) outer)
  | @wait said u _ s _ _ _ _ _ both _ ih =>
    refine .wait (quiet outer both) fun now now₀ same => ?_
    have start : s.text = said ++ u := grown start both
    exact ih { now with text := s.text } now₀
      ((World.same_withText now s.text).symm.trans same) start now.text
  | astray isOff isOff₀ => exact .astray isOff isOff₀

end Course

def Appends (sink? : Option Sink) : World → List (Course.Step World) → World → String → Prop
  | w, [], w', text => Adds sink? w text w'
  | w, .event _ s :: rest, w', text =>
    ∃ u v, text = u ++ v ∧ Adds sink? w u s ∧ Appends sink? s rest w' v
  | w, .waited _ s now :: rest, w', text =>
    ∃ u v, text = u ++ v ∧ Adds sink? w u s ∧ Appends sink? now rest w' v

section Paths

open Course

variable {sink? : Option Sink} {w w₁ w' : World} {p q : List (Step World)} {u v : String}

theorem Appends.before (h : Adds sink? w u w₁) (h' : Appends sink? w₁ p w' v) :
    Appends sink? w p w' (u ++ v) := by
  cases p with
  | nil => exact h.trans h'
  | cons step p =>
    cases step <;>
    · obtain ⟨u', v', rfl, adds, rest⟩ := h'
      exact ⟨u ++ u', v', (String.append_assoc ..).symm, h.trans adds, rest⟩

theorem Appends.append (h : Appends sink? w p w₁ u) (h' : Appends sink? w₁ q w' v) :
    Appends sink? w (p ++ q) w' (u ++ v) := by
  induction p generalizing w u with
  | nil => exact h'.before h
  | cons step p ih =>
    cases step <;>
    · obtain ⟨u', v', rfl, adds, rest⟩ := h
      exact ⟨u', v' ++ v, String.append_assoc .., adds, ih rest⟩

/-- What comes to no sink is nothing for any. -/
theorem Appends.mute (h : Appends none w p w' u) (sink? : Option Sink) :
    Appends sink? w p w' "" := by
  induction p generalizing w u with
  | nil => exact Adds.mute h sink?
  | cons step p ih =>
    cases step <;>
    · obtain ⟨_, _, _, adds, rest⟩ := h
      exact ⟨"", "", rfl, adds.mute sink?, ih rest⟩

/-- Two paths with the same steps, which find the same in their waits but for the streams. -/
inductive Agree : List (Step World) → List (Step World) → Prop
  | nil : Agree [] []
  | event {e e₀ : Event} {s s₀ : World} {p p₀ : List (Step World)} (rest : Agree p p₀) :
      Agree (.event e s :: p) (.event e₀ s₀ :: p₀)
  | waited {reason : Wait} {s now s₀ now₀ : World} {p p₀ : List (Step World)}
      (found : now.Same now₀) (rest : Agree p p₀) :
      Agree (.waited reason s now :: p) (.waited reason s₀ now₀ :: p₀)

variable {α β : Type} {off : Event → Prop} {left right : Option Sink} {said : String}
  {R : String → α → β → Prop} {w₀ : World} {c c' : Course World α} {d d' : Course World β}
  {p₀ : List (Step World)} {a : α}

/-- What one of two such courses does, the other one does. -/
theorem Course.Twin.along (h : Twin off left right R said w c w₀ d) (reached : c.Reaches p c')
    (reached₀ : d.Reaches p₀ d') (agree : Agree p p₀) (fine : ∀ e ∈ events p, ¬ off e) :
    ∃ v v₀ text, Twin off left right R (said ++ text) v c' v₀ d' ∧ Appends left w p v text ∧
      Appends right w₀ p₀ v₀ text := by
  -- The induction is on what the first course has done; the second path has the same steps.
  induction reached generalizing d w w₀ said p₀ with
  | here =>
    cases agree
    obtain rfl := reaches_nil.mp reached₀
    exact ⟨w, w₀, "", by simpa using h, adds_nothing left rfl, adds_nothing right rfl⟩
  | note _ ih =>
    cases agree with
    | event agree =>
      cases reached₀ with
      | note reached₀ =>
        cases h with
        | note both rest =>
          obtain ⟨v, v₀, text, twin, appends, appends₀⟩ :=
            ih rest reached₀ agree fun e member => fine e (by simp [member])
          exact ⟨v, v₀, _, String.append_assoc ▸ twin, ⟨_, text, rfl, both.left, appends⟩,
            ⟨_, text, rfl, both.right, appends₀⟩⟩
        | astray isOff _ => exact absurd isOff (fine _ (by simp))
  | wait _ ih =>
    cases agree with
    | waited found agree =>
      cases reached₀ with
      | wait reached₀ =>
        cases h with
        | wait both rest =>
          obtain ⟨v, v₀, text, twin, appends, appends₀⟩ :=
            ih (rest _ _ found) reached₀ agree fun e member => fine e (by simpa using member)
          exact ⟨v, v₀, _, String.append_assoc ▸ twin, ⟨_, text, rfl, both.left, appends⟩,
            ⟨_, text, rfl, both.right, appends₀⟩⟩

/-- Where one of two such courses comes to its end, the other one does. -/
theorem Course.Twin.ends (h : Twin off left right R said w c w₀ d) (ends : c.Ends p a w')
    (fine : ∀ e ∈ events p, ¬ off e) :
    ∃ p₀ b w₀' text, Agree p p₀ ∧ d.Ends p₀ b w₀' ∧ R (said ++ text) a b ∧ w'.Same w₀' ∧
      Appends left w p w' text ∧ Appends right w₀ p₀ w₀' text := by
  obtain ⟨last, same, reached⟩ : ∃ c', c' = Course.done a w' ∧ c.Reaches p c' := ⟨_, rfl, ends⟩
  clear ends
  induction reached generalizing d w w₀ said with
  | here =>
    subst same
    cases h with
    | done both related =>
      exact ⟨[], _, _, _, .nil, .here, related, both.same, both.left, both.right⟩
  | note _ ih =>
    cases h with
    | note both rest =>
      obtain ⟨p₀, b, w₀', text, agree, ends, related, same, appends, appends₀⟩ :=
        ih rest (fun e member => fine e (by simp [member])) same
      exact ⟨_, b, w₀', _, .event agree, .note ends, String.append_assoc ▸ related, same,
        ⟨_, text, rfl, both.left, appends⟩, ⟨_, text, rfl, both.right, appends₀⟩⟩
    | astray isOff _ => exact absurd isOff (fine _ (by simp))
  | @wait _ _ now _ _ _ _ ih =>
    cases h with
    | wait both rest =>
      obtain ⟨p₀, b, w₀', text, agree, ends, related, same, appends, appends₀⟩ :=
        ih (rest now now (.refl now)) (fun e member => fine e (by simpa using member)) same
      exact ⟨_, b, w₀', _, .waited (.refl now) agree, .wait ends, String.append_assoc ▸ related,
        same, ⟨_, text, rfl, both.left, appends⟩, ⟨_, text, rfl, both.right, appends₀⟩⟩

def Course.Follows (d : Course World β) (path : List (Step World))
    (comes : List (Step World) → β → World → Prop) : Prop :=
  ∀ p q p₀ d', path = p ++ q → Agree p p₀ → d.Reaches p₀ d' →
    ∃ q₀ b w₀', Agree q q₀ ∧ d'.Ends q₀ b w₀' ∧ comes (p₀ ++ q₀) b w₀'

theorem Course.Follows.weaken {comes comes' : List (Step World) → β → World → Prop}
    (h : d.Follows p comes) (weaker : ∀ p₀ b w₀', comes p₀ b w₀' → comes' p₀ b w₀') :
    d.Follows p comes' := by
  intro begun rest begun₀ d' whole agree reached
  obtain ⟨rest₀, b, w₀', agree, ends, come⟩ := h begun rest begun₀ d' whole agree reached
  exact ⟨rest₀, b, w₀', agree, ends, weaker _ _ _ come⟩

theorem Course.Twin.follows (h : Twin off left right R said w c w₀ d) (ends : c.Ends p a w')
    (fine : ∀ e ∈ events p, ¬ off e) :
    d.Follows p fun p₀ b w₀' => ∃ text, R (said ++ text) a b ∧ w'.Same w₀' ∧
      Appends left w p w' text ∧ Appends right w₀ p₀ w₀' text := by
  rintro begun rest begun₀ d' rfl agree reached₀
  obtain ⟨c', reached, ends⟩ := reaches_append.mp ends
  obtain ⟨v, v₀, text, twin, appends, appends₀⟩ :=
    h.along reached reached₀ agree fun e member => fine e (by simp [member])
  obtain ⟨rest₀, b, w₀', more, agree, ends₀, related, same, later, later₀⟩ :=
    twin.ends ends fun e member => fine e (by simp [member])
  exact ⟨rest₀, b, w₀', agree, ends₀, text ++ more, String.append_assoc ▸ related, same,
    appends.append later, appends₀.append later₀⟩

end Paths

end Runbook
