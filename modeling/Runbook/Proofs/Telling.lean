import Runbook.Proofs.Path
import Runbook.Run.Iteration
/-! What the parts of a run tell, and where the text that they write goes. -/
namespace Runbook

open Course

namespace World

theorem tell_eq (w : World) (what : Happening) :
    w.tell what = after [(⟨[], what⟩, w)] (.done () w) := rfl

theorem sayLine_eq (w : World) (sink : Sink) (line : String) :
    w.sayLine sink line =
      after [(⟨[], .wrote sink (line ++ "\n")⟩, w.writeLine sink line)]
        (.done () (w.writeLine sink line)) := rfl

/-- Lines are told one by one. -/
theorem sayLines_told (w : World) (sink : Sink) (lines : List String) :
    ∃ told, w.sayLines sink lines = after told (.done () (w.writeLines sink lines)) ∧
      told.map Prod.fst = lines.map fun line => ⟨[], .wrote sink (line ++ "\n")⟩ := by
  induction lines generalizing w with
  | nil => exact ⟨[], rfl, rfl⟩
  | cons line rest ih =>
    obtain ⟨told, later, events⟩ := ih (w.writeLine sink line)
    refine ⟨(⟨[], .wrote sink (line ++ "\n")⟩, w.writeLine sink line) :: told, ?_, ?_⟩
    · simp only [sayLines, sayLine_eq, bind_after, bind_done, later]
      rfl
    · rw [List.map_cons, events, List.map_cons]

end World

@[simp] theorem Course.underText_after {α : Type} (told : List (Event × World))
    (c : Course World α) (outer : String) :
    (after told c).underText outer =
      after (told.map fun e => (e.1, { e.2 with text := outer })) (c.underText outer) := by
  induction told with
  | nil => rfl
  | cons e rest ih => simp only [after, List.foldr_cons] at ih ⊢; simp [underText, ih]

inductive Course.Alike : List (Step World) → List (Step World) → Prop
  | nil : Alike [] []
  | event {e : Event} {s : World} {text : String} {p q : List (Step World)} (rest : Alike p q) :
      Alike (.event e s :: p) (.event e { s with text } :: q)
  | waited {reason : Wait} {s now : World} {text inner : String} {p q : List (Step World)}
      (rest : Alike p q) :
      Alike (.waited reason s { now with text := inner } :: p)
        (.waited reason { s with text } now :: q)

theorem Course.Alike.events {p q : List (Step World)} (h : Alike p q) :
    Course.events q = Course.events p := by
  induction h with
  | nil => rfl
  | event _ ih => simp [ih]
  | waited _ ih => simpa using ih

/-- Out of a place for its text, a run comes to the same end, and the same happens in it. -/
theorem Course.ends_underText {α : Type} {c : Course World α} {outer : String}
    {path : List (Step World)} {r : α × String} {w : World}
    (h : (c.underText outer).Ends path r w) :
    ∃ p inner, c.Ends p r.1 inner ∧ Alike p path ∧ r.2 = inner.text ∧
      w = { inner with text := w.text } := by
  induction c generalizing outer path with
  | stuck => simp [underText] at h
  | done a s =>
    obtain ⟨rfl, rfl, rfl⟩ := ends_done.mp h
    exact ⟨[], s, .here, .nil, rfl, rfl⟩
  | note event s next ih =>
    obtain ⟨rest, rfl, later⟩ := ends_note.mp h
    obtain ⟨p, inner, ends, alike, text, world⟩ := ih () later
    exact ⟨_ :: p, inner, .note ends, .event alike, text, world⟩
  | wait reason s next ih =>
    obtain ⟨now, rest, rfl, later⟩ := ends_wait.mp h
    obtain ⟨p, inner, ends, alike, text, world⟩ := ih _ later
    exact ⟨_ :: p, inner, .wait ends, .waited alike, text, world⟩

def Happening.isWriting : Happening → Bool
  | .wrote .. => true
  | _ => false

def writings {σ : Type} (path : List (Step σ)) : List Event :=
  (events path).filter (·.what.isWriting)

@[simp] theorem writings_append {σ : Type} (p q : List (Step σ)) :
    writings (p ++ q) = writings p ++ writings q := by
  simp [writings]

def Outlet.captures : Outlet → Bool
  | .capture _ => true
  | _ => false

/-- A place in a run: the innermost action, where that writes, and whether an action around it
captures what its parts write to the text. -/
structure Site where
  action : String
  sink : Sink
  captured : Bool

namespace Site

def enter (s : Site) : Layer → Site
  | .action l => ⟨l.descriptor.name, l.outlet.sink s.sink, s.captured || l.outlet.captures⟩
  | .round _ | .command _ => s

def within (s : Site) (layers : List Layer) : Site := layers.foldl enter s

/-- The world with a further line from a site; a text that is captured does not last beyond the
failure of the action that captures it. -/
def withLine (s : Site) (w : World) (line : String) : World :=
  if s.captured ∧ s.sink = .text then w else w.writeLine s.sink line

@[simp] theorem within_nil (s : Site) : s.within [] = s := rfl

@[simp] theorem within_cons (s : Site) (layer : Layer) (layers : List Layer) :
    s.within (layer :: layers) = (s.enter layer).within layers := rfl

theorem within_append (s : Site) (p q : List Layer) :
    s.within (p ++ q) = (s.within p).within q := by
  simp [within]

/-- A capture outside adds nothing but itself. -/
theorem within_captured (s : Site) (layers : List Layer) :
    { s with captured := true }.within layers = { s.within layers with captured := true } := by
  induction layers generalizing s with
  | nil => rfl
  | cons layer rest ih =>
    cases layer with
    | action l => simpa [enter] using ih ⟨l.descriptor.name, l.outlet.sink s.sink, _⟩
    | round => exact ih s
    | command => exact ih s

end Site

end Runbook
