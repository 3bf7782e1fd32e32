import Runbook.Proofs.Chunks
import Runbook.Proofs.Lacking
/-! Entries without placeholders: they read the same in every run, whatever the variables are. -/
namespace Runbook

namespace Placeholder

def Closed (s : List Char) : Prop :=
  ∀ before after hole rest, s = before ++ '<' :: after → ¬ Opens after hole rest

theorem Closed.tail {c : Char} {s : List Char} (h : Closed (c :: s)) : Closed s :=
  fun before after hole rest joined => h (c :: before) after hole rest (by simp [joined])

theorem fill_closed {vars : Variables} {s : List Char} (h : Closed s) : fill vars s = s := by
  induction s with
  | nil => exact fill_nil
  | cons c s ih =>
    by_cases bracket : c = '<'
    · subst bracket
      rw [fill_bracket fun hole rest => h [] s hole rest rfl, ih h.tail]
    · rw [fill_plain bracket, ih h.tail]

theorem closed_of_not_mem {s : List Char} (free : '<' ∉ s) : Closed s := by
  rintro before after hole rest rfl
  exact absurd (by simp) free

/-- A bracket that nothing closes as a placeholder is none. -/
theorem closed_bracket {s : List Char} (unread : read? s = none) (free : '<' ∉ s) :
    Closed ('<' :: s) := by
  intro before after hole rest joined
  cases before with
  | nil =>
    obtain rfl : s = after := by simpa using joined
    exact not_opens_iff.mp unread hole rest
  | cons c before =>
    obtain ⟨rfl, rfl⟩ : '<' = c ∧ s = before ++ '<' :: after := by simpa using joined
    simp at free

end Placeholder

theorem substitute_closed {vars : Variables} {text : String}
    (h : Placeholder.Closed text.toList) : substitute vars text = text := by
  rw [Placeholder.substitute_eq, Placeholder.fill_closed h, String.ofList_toList]

namespace ControlFile

variable {control : ControlFile} {action text : String} {vars : Variables}

/-- The entry of a name has no placeholder, and is read as a text. -/
def Reads (control : ControlFile) (name text : String) : Prop :=
  ∃ raw, control.get? name = some raw ∧ Placeholder.Closed raw.toList ∧ unquote raw = text

def Passes (control : ControlFile) (action : String) : Nat → List String → Prop
  | index, [] => control.get? (parameterName action index) = none
  | index, text :: rest =>
    control.Reads (parameterName action index) text ∧ control.Passes action (index + 1) rest

theorem Reads.target (h : control.Reads action text) : control.target action vars = text := by
  obtain ⟨raw, found, closed, rfl⟩ := h
  simp only [ControlFile.target, found, substitute_closed closed]

theorem Passes.parametersFrom {texts : List String} {index count : Nat}
    (h : control.Passes action index texts) (enough : texts.length < count) :
    control.parametersFrom action vars index count = texts := by
  induction texts generalizing index count with
  | nil =>
    obtain ⟨count, rfl⟩ := Nat.exists_eq_add_of_lt enough
    have missing : control.get? (parameterName action index) = none := h
    simp only [ControlFile.parametersFrom, missing]
  | cons text rest ih =>
    obtain ⟨⟨raw, found, closed, rfl⟩, more⟩ := h
    obtain ⟨count, rfl⟩ : ∃ n, count = n + 1 := ⟨count - 1, by simp at enough; omega⟩
    simp only [ControlFile.parametersFrom, found, substitute_closed closed,
      ih more (by simpa using enough)]

theorem Passes.parameters {texts : List String} (h : control.Passes action 1 texts) :
    control.parameters action vars = texts := by
  rw [ControlFile.parameters, parametersFrom_eq (Nat.le_add_right control.size (texts.length + 1)),
    h.parametersFrom (by omega)]

/-- A command that does not name itself gets the parameters as they are. -/
theorem Passes.arguments {texts : List String} (h : control.Passes action 1 texts)
    (target : control.Reads action text)
    (other : selfNaming.contains (text, texts.length) = false) :
    control.arguments action vars = texts := by
  simp only [ControlFile.arguments, h.parameters, target.target, other]
  rfl

end ControlFile

end Runbook
