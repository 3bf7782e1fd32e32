import Runbook.Run.Course
/-! Paths: how a course goes on step by step. A wait may end in any state, so a path says which
state was found then; all else in it is up to the course. -/
namespace Runbook.Course

variable {σ α β γ : Type}

inductive Step (σ : Type) where
  /-- Something has happened and left a state behind. -/
  | event (event : Event) (state : σ)
  /-- A wait has begun in one state and ended in another one. -/
  | waited (reason : Wait) (state now : σ)

namespace Step

def event? : Step σ → Option Event
  | event e _ => some e
  | waited .. => none

def under (layer : Layer) : Step σ → Step σ
  | event e s => event (e.under layer) s
  | waited reason s now => waited reason s now

def state : Step σ → σ
  | event _ s => s
  | waited _ _ now => now

end Step

def events (path : List (Step σ)) : List Event := path.filterMap Step.event?

@[simp] theorem events_nil : events ([] : List (Step σ)) = [] := rfl

@[simp] theorem events_event (e : Event) (s : σ) (rest : List (Step σ)) :
    events (.event e s :: rest) = e :: events rest := rfl

@[simp] theorem events_waited (reason : Wait) (s now : σ) (rest : List (Step σ)) :
    events (.waited reason s now :: rest) = events rest := rfl

@[simp] theorem events_append (p q : List (Step σ)) :
    events (p ++ q) = events p ++ events q := List.filterMap_append

theorem events_under (layer : Layer) (path : List (Step σ)) :
    events (path.map (Step.under layer)) = (events path).map (Event.under layer) := by
  induction path with
  | nil => rfl
  | cons m rest ih => cases m <;> simp [Step.under, ih]

/-- A course goes along a path, and then on as another course. -/
inductive Reaches : Course σ α → List (Step σ) → Course σ α → Prop
  | here {c : Course σ α} : Reaches c [] c
  | note {e : Event} {s : σ} {next : Unit → Course σ α} {path : List (Step σ)}
      {d : Course σ α} (rest : Reaches (next ()) path d) :
      Reaches (note e s next) (.event e s :: path) d
  | wait {reason : Wait} {s now : σ} {next : σ → Course σ α} {path : List (Step σ)}
      {d : Course σ α} (rest : Reaches (next now) path d) :
      Reaches (wait reason s next) (.waited reason s now :: path) d

def Ends (c : Course σ α) (path : List (Step σ)) (a : α) (s : σ) : Prop :=
  c.Reaches path (done a s)

@[simp] theorem reaches_nil {c d : Course σ α} : c.Reaches [] d ↔ c = d :=
  ⟨fun h => by cases h; rfl, fun h => h ▸ .here⟩

@[simp] theorem reaches_done {a : α} {s : σ} {path : List (Step σ)} {d : Course σ α} :
    (done a s).Reaches path d ↔ path = [] ∧ d = done a s :=
  ⟨fun h => by cases h; exact ⟨rfl, rfl⟩, fun ⟨hp, hd⟩ => by subst hp hd; exact .here⟩

@[simp] theorem reaches_stuck {path : List (Step σ)} {d : Course σ α} :
    (stuck : Course σ α).Reaches path d ↔ path = [] ∧ d = stuck :=
  ⟨fun h => by cases h; exact ⟨rfl, rfl⟩, fun ⟨hp, hd⟩ => by subst hp hd; exact .here⟩

@[simp] theorem ends_done {a b : α} {s t : σ} {path : List (Step σ)} :
    (done a s).Ends path b t ↔ path = [] ∧ b = a ∧ t = s := by
  simp [Ends]

@[simp] theorem not_ends_stuck {a : α} {s : σ} {path : List (Step σ)} :
    ¬ (stuck : Course σ α).Ends path a s := by
  simp [Ends]

theorem ends_note {e : Event} {s t : σ} {next : Unit → Course σ α} {path : List (Step σ)}
    {a : α} :
    (note e s next).Ends path a t ↔
      ∃ rest, path = .event e s :: rest ∧ (next ()).Ends rest a t := by
  constructor
  · intro h
    cases h with
    | note rest => exact ⟨_, rfl, rest⟩
  · rintro ⟨rest, rfl, h⟩
    exact .note h

theorem ends_wait {reason : Wait} {s t : σ} {next : σ → Course σ α} {path : List (Step σ)}
    {a : α} :
    (wait reason s next).Ends path a t ↔
      ∃ now rest, path = .waited reason s now :: rest ∧ (next now).Ends rest a t := by
  constructor
  · intro h
    cases h with
    | wait rest => exact ⟨_, _, rfl, rest⟩
  · rintro ⟨now, rest, rfl, h⟩
    exact .wait h

theorem bind_done_right (c : Course σ α) : (c.bind fun a s => done a s) = c := by
  induction c with
  | stuck => rfl
  | done => rfl
  | note _ _ _ ih => simp only [bind, ih]
  | wait _ _ _ ih => simp only [bind, ih]

theorem map_id (c : Course σ α) : c.map id = c := bind_done_right c

theorem Reaches.trans {c d e : Course σ α} {p q : List (Step σ)} (first : c.Reaches p d)
    (second : d.Reaches q e) : c.Reaches (p ++ q) e := by
  induction first with
  | here => exact second
  | note _ ih => exact .note (ih second)
  | wait _ ih => exact .wait (ih second)

theorem reaches_append {c e : Course σ α} {p q : List (Step σ)} :
    c.Reaches (p ++ q) e ↔ ∃ d, c.Reaches p d ∧ d.Reaches q e := by
  refine ⟨fun h => ?_, fun ⟨d, first, second⟩ => first.trans second⟩
  induction p generalizing c with
  | nil => exact ⟨c, .here, h⟩
  | cons m p ih =>
    cases h with
    | note rest =>
      obtain ⟨d, first, second⟩ := ih rest
      exact ⟨d, .note first, second⟩
    | wait rest =>
      obtain ⟨d, first, second⟩ := ih rest
      exact ⟨d, .wait first, second⟩

theorem Reaches.bind {c d : Course σ α} {path : List (Step σ)} (h : c.Reaches path d)
    (f : α → σ → Course σ β) : (c.bind f).Reaches path (d.bind f) := by
  induction h with
  | here => exact .here
  | note _ ih => exact .note ih
  | wait _ ih => exact .wait ih

theorem Ends.bind {c : Course σ α} {f : α → σ → Course σ β} {p q : List (Step σ)} {a : α}
    {b : β} {s t : σ} (first : c.Ends p a s) (second : (f a s).Ends q b t) :
    (c.bind f).Ends (p ++ q) b t :=
  (Reaches.bind first f).trans second

/-- One course after the other comes along a path to where one of the two does. -/
theorem reaches_bind_cases {c : Course σ α} {f : α → σ → Course σ β} {path : List (Step σ)}
    {e : Course σ β} (h : (c.bind f).Reaches path e) :
    (∃ d, c.Reaches path d ∧ e = d.bind f) ∨
      ∃ p q a s, path = p ++ q ∧ q ≠ [] ∧ c.Ends p a s ∧ (f a s).Reaches q e := by
  induction c generalizing path with
  | stuck =>
    obtain ⟨rfl, rfl⟩ := reaches_stuck.mp h
    exact .inl ⟨_, .here, rfl⟩
  | done a s =>
    cases path with
    | nil => exact .inl ⟨_, .here, (reaches_nil.mp h).symm⟩
    | cons m rest => exact .inr ⟨[], m :: rest, a, s, rfl, by simp, .here, h⟩
  | note _ _ _ ih =>
    cases h with
    | here => exact .inl ⟨_, .here, rfl⟩
    | note rest =>
      obtain ⟨d, hd, rfl⟩ | ⟨p, q, a, s, rfl, hq, first, second⟩ := ih () rest
      · exact .inl ⟨d, .note hd, rfl⟩
      · exact .inr ⟨_ :: p, q, a, s, rfl, hq, .note first, second⟩
  | wait _ _ _ ih =>
    cases h with
    | here => exact .inl ⟨_, .here, rfl⟩
    | wait rest =>
      obtain ⟨d, hd, rfl⟩ | ⟨p, q, a, s, rfl, hq, first, second⟩ := ih _ rest
      · exact .inl ⟨d, .wait hd, rfl⟩
      · exact .inr ⟨_ :: p, q, a, s, rfl, hq, .wait first, second⟩

theorem ends_bind {c : Course σ α} {f : α → σ → Course σ β} {path : List (Step σ)} {b : β}
    {t : σ} :
    (c.bind f).Ends path b t ↔
      ∃ p q a s, path = p ++ q ∧ c.Ends p a s ∧ (f a s).Ends q b t := by
  refine ⟨fun h => ?_, fun ⟨p, q, a, s, hp, first, second⟩ => hp ▸ first.bind second⟩
  obtain ⟨d, hd, done⟩ | ⟨p, q, a, s, rfl, _, first, second⟩ := reaches_bind_cases h
  · cases d with
    | done a s => exact ⟨path, [], a, s, by simp, hd, reaches_nil.mpr done.symm⟩
    | _ => simp [Course.bind] at done
  · exact ⟨p, q, a, s, rfl, first, second⟩

theorem ends_map {c : Course σ α} {f : α → β} {path : List (Step σ)} {b : β} {t : σ} :
    (c.map f).Ends path b t ↔ ∃ a, c.Ends path a t ∧ b = f a := by
  simp only [Course.map, ends_bind, ends_done]
  constructor
  · rintro ⟨p, q, a, s, rfl, first, rfl, rfl, rfl⟩
    exact ⟨a, by simpa using first, rfl⟩
  · rintro ⟨a, first, rfl⟩
    exact ⟨path, [], a, t, by simp, first, rfl, rfl, rfl⟩

theorem Reaches.under {c d : Course σ α} {path : List (Step σ)} (h : c.Reaches path d)
    (layer : Layer) :
    (c.under layer).Reaches (path.map (Step.under layer)) (d.under layer) := by
  induction h with
  | here => exact .here
  | note _ ih => exact .note ih
  | wait _ ih => exact .wait ih

theorem reaches_under {c : Course σ α} {layer : Layer} {path : List (Step σ)}
    {e : Course σ α} :
    (c.under layer).Reaches path e ↔
      ∃ p d, path = p.map (Step.under layer) ∧ e = d.under layer ∧ c.Reaches p d := by
  refine ⟨fun h => ?_, fun ⟨p, d, hp, he, h⟩ => hp ▸ he ▸ h.under layer⟩
  induction c generalizing path with
  | stuck =>
    obtain ⟨rfl, rfl⟩ := reaches_stuck.mp h
    exact ⟨[], _, rfl, rfl, .here⟩
  | done a s =>
    obtain ⟨rfl, rfl⟩ := reaches_done.mp h
    exact ⟨[], _, rfl, rfl, .here⟩
  | note _ _ _ ih =>
    cases h with
    | here => exact ⟨[], _, rfl, rfl, .here⟩
    | note rest =>
      obtain ⟨p, d, rfl, rfl, h⟩ := ih () rest
      exact ⟨_ :: p, d, rfl, rfl, .note h⟩
  | wait _ _ _ ih =>
    cases h with
    | here => exact ⟨[], _, rfl, rfl, .here⟩
    | wait rest =>
      obtain ⟨p, d, rfl, rfl, h⟩ := ih _ rest
      exact ⟨.waited _ _ _ :: p, d, rfl, rfl, .wait h⟩

theorem ends_under {c : Course σ α} {layer : Layer} {path : List (Step σ)} {a : α} {s : σ} :
    (c.under layer).Ends path a s ↔ ∃ p, path = p.map (Step.under layer) ∧ c.Ends p a s := by
  constructor
  · intro h
    obtain ⟨p, d, rfl, done, hd⟩ := reaches_under.mp h
    cases d with
    | done b t => cases done; exact ⟨p, rfl, hd⟩
    | _ => simp [Course.under] at done
  · rintro ⟨p, rfl, h⟩
    exact h.under layer

/-- The path and the end of a course that does not wait. -/
def direct? : Course σ α → Option (List (Step σ) × α × σ)
  | stuck => none
  | done a s => some ([], a, s)
  | note e s next => (next ()).direct?.map fun r => (.event e s :: r.1, r.2)
  | wait .. => none

theorem ends_of_direct? {c : Course σ α} {r : List (Step σ) × α × σ} (h : c.direct? = some r) :
    c.Ends r.1 r.2.1 r.2.2 := by
  induction c generalizing r with
  | stuck | wait => simp [direct?] at h
  | done a s =>
    cases h
    exact .here
  | note e s next ih =>
    obtain ⟨rest, later, rfl⟩ := Option.map_eq_some_iff.mp h
    exact .note (ih () later)

/-- A course after events, with the states that they leave behind. -/
def after (told : List (Event × σ)) (c : Course σ α) : Course σ α :=
  told.foldr (fun e rest => note e.1 e.2 fun _ => rest) c

def steps (told : List (Event × σ)) : List (Step σ) := told.map fun e => .event e.1 e.2

@[simp] theorem after_nil (c : Course σ α) : after [] c = c := rfl

@[simp] theorem after_append (p q : List (Event × σ)) (c : Course σ α) :
    after (p ++ q) c = after p (after q c) := by
  simp [after]

@[simp] theorem bind_after (told : List (Event × σ)) (c : Course σ α)
    (f : α → σ → Course σ β) : (after told c).bind f = after told (c.bind f) := by
  induction told with
  | nil => rfl
  | cons e rest ih => simp only [after, List.foldr_cons] at ih ⊢; simp [bind, ih]

@[simp] theorem under_after (told : List (Event × σ)) (c : Course σ α) (layer : Layer) :
    (after told c).under layer =
      after (told.map fun e => (e.1.under layer, e.2)) (c.under layer) := by
  induction told with
  | nil => rfl
  | cons e rest ih => simp only [after, List.foldr_cons] at ih ⊢; simp [under, ih]

@[simp] theorem events_steps (told : List (Event × σ)) :
    events (steps told) = told.map Prod.fst := by
  induction told with
  | nil => rfl
  | cons e rest ih => simpa [steps] using ih

theorem reaches_after (told : List (Event × σ)) (c : Course σ α) :
    (after told c).Reaches (steps told) c := by
  induction told with
  | nil => exact .here
  | cons e rest ih => exact .note ih

theorem ends_after {told : List (Event × σ)} {c : Course σ α} {path : List (Step σ)} {a : α}
    {s : σ} : (after told c).Ends path a s ↔ ∃ p, path = steps told ++ p ∧ c.Ends p a s := by
  induction told generalizing path with
  | nil => simp [steps]
  | cons e rest ih =>
    simp only [after, List.foldr_cons, ends_note] at ih ⊢
    simp only [ih]
    constructor
    · rintro ⟨_, rfl, p, rfl, h⟩
      exact ⟨p, rfl, h⟩
    · rintro ⟨p, rfl, h⟩
      exact ⟨_, rfl, p, rfl, h⟩

/-- A course that only tells something ends when that is told. -/
theorem ends_after_done {told : List (Event × σ)} {path : List (Step σ)} {a b : α} {s t : σ} :
    (after told (done a s)).Ends path b t ↔ path = steps told ∧ b = a ∧ t = s := by
  rw [ends_after]
  constructor
  · rintro ⟨_, rfl, last⟩
    obtain ⟨rfl, same, rfl⟩ := ends_done.mp last
    exact ⟨List.append_nil _, same, rfl⟩
  · rintro ⟨rfl, rfl, rfl⟩
    exact ⟨[], (List.append_nil _).symm, ends_done.mpr ⟨rfl, rfl, rfl⟩⟩

end Runbook.Course
