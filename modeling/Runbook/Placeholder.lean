import Runbook.Variables
/-! Placeholders `<name>` and `<name:default>`. Text is read once from left to right; what a
placeholder stands for is copied and not read again, and a bracket that opens no placeholder
stands for itself. -/
namespace Runbook.Placeholder

def isNameStart (c : Char) : Bool := c.isAlpha || c == '_'

def isNamePart (c : Char) : Bool := c.isAlphanum || c == '_' || c == '.' || c == '-'

structure Hole where
  name : List Char
  default : List Char
  deriving DecidableEq, Repr

/-- The first characters that are no angle bracket, and a closing bracket after them. -/
def default? (s : List Char) : Option (List Char × List Char) :=
  match s.dropWhile (fun c => c ≠ '<' && c ≠ '>') with
  | '>' :: rest => some (s.takeWhile (fun c => c ≠ '<' && c ≠ '>'), rest)
  | _ => none

/-- The placeholder whose opening bracket is right before the text, and what follows it. -/
def read? (s : List Char) : Option (Hole × List Char) :=
  match s with
  | [] => none
  | c :: _ =>
    if isNameStart c then
      let name := s.takeWhile isNamePart
      match s.dropWhile isNamePart with
      | '>' :: rest => some (⟨name, []⟩, rest)
      | ':' :: after => (default? after).map fun e => (⟨name, e.1⟩, e.2)
      | _ => none
    else none

theorem length_dropWhile_le (p : Char → Bool) (s : List Char) :
    (s.dropWhile p).length ≤ s.length :=
  (List.dropWhile_sublist p).length_le

theorem length_default? {s rest found : List Char} (h : default? s = some (found, rest)) :
    rest.length < s.length := by
  unfold default? at h
  split at h
  · rename_i r he
    have := length_dropWhile_le (fun c => c ≠ '<' && c ≠ '>') s
    simp only [he, List.length_cons] at this
    simp only [Option.some.injEq, Prod.mk.injEq] at h
    rw [← h.2]; omega
  · simp at h

theorem length_read? {s rest : List Char} {hole : Hole} (h : read? s = some (hole, rest)) :
    rest.length < s.length := by
  unfold read? at h
  split at h
  · simp at h
  · rename_i c t
    split at h
    · have hd := length_dropWhile_le isNamePart (c :: t)
      split at h
      · rename_i r he
        simp only [he, List.length_cons] at hd
        simp only [Option.some.injEq, Prod.mk.injEq] at h
        rw [← h.2]; simp only [List.length_cons]; omega
      · rename_i r he
        simp only [he, List.length_cons] at hd
        simp only [Option.map_eq_some_iff, Prod.mk.injEq] at h
        obtain ⟨⟨found, rest'⟩, hf, _, hr⟩ := h
        have := length_default? hf
        simp only at hr
        rw [← hr]; simp only [List.length_cons]; omega
      · simp at h
    · simp at h

def Hole.fill (vars : Variables) (hole : Hole) : List Char :=
  match vars.get? (String.ofList hole.name) with
  | some value => value.toList
  | none => hole.default

def fill (vars : Variables) : List Char → List Char
  | [] => []
  | c :: rest =>
    if c = '<' then
      match _h : read? rest with
      | some (hole, after) => hole.fill vars ++ fill vars after
      | none => c :: fill vars rest
    else c :: fill vars rest
termination_by s => s.length
decreasing_by
  · have := length_read? _h
    simp only [List.length_cons]; omega
  · simp
  · simp

end Runbook.Placeholder

namespace Runbook

/-- Text with its placeholders filled. A text without an opening bracket is not looked through. -/
def substitute (vars : Variables) (text : String) : String :=
  if text.toList.contains '<' then String.ofList (Placeholder.fill vars text.toList) else text

end Runbook
