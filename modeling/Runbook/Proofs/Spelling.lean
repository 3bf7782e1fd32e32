import Runbook.Shell.Words
/-! Words as they are written in a line. A word stands between quotes or behind backslashes, and
blanks divide the words; reading the line gives them back. The words of a line cannot be read only
where it ends between quotes. -/
namespace Runbook.Shell

inductive Spelling where
  | single
  | double
  /-- With a backslash before every character. -/
  | guarded
  deriving DecidableEq, Repr

/-- Between double quotes only these characters need a backslash. -/
def guardQuoted (c : Char) : List Char := if c = '\\' ∨ c = '"' then ['\\', c] else [c]

namespace Spelling

def Suits : Spelling → List Char → Prop
  | single, word => '\'' ∉ word
  | double, _ => True
  | guarded, word => word ≠ []

def write : Spelling → List Char → List Char
  | single, word => '\'' :: (word ++ ['\''])
  | double, word => '"' :: (word.flatMap guardQuoted ++ ['"'])
  | guarded, word => word.flatMap fun c => ['\\', c]

end Spelling

/-- A word, and how it is written. -/
structure Written where
  word : String
  spelling : Spelling
  suits : spelling.Suits word.toList

def Written.text (w : Written) : List Char := w.spelling.write w.word.toList

structure Blanks where
  chars : List Char
  blank : ∀ c ∈ chars, Text.isBlank c = true

structure Gap extends Blanks where
  wide : chars ≠ []

def layOut (gap : Nat → Gap) : List Written → List Char
  | [] => []
  | [w] => w.text
  | w :: v :: rest => w.text ++ (gap 0).chars ++ layOut (fun i => gap (i + 1)) (v :: rest)

/-- Where a reader of a line stands: outside of quotes or between them, and whether behind a
backslash that takes away the meaning of the next character. -/
structure Place where
  quotes : Quotes
  guarded : Bool

def Place.next (p : Place) (c : Char) : Place :=
  if p.guarded then ⟨p.quotes, false⟩
  else
    match p.quotes, c with
    | .none, '\'' => ⟨.single, false⟩
    | .none, '"' => ⟨.double, false⟩
    | .single, '\'' | .double, '"' => ⟨.none, false⟩
    | .none, '\\' | .double, '\\' => ⟨p.quotes, true⟩
    | quotes, _ => ⟨quotes, false⟩

def placeAfter (line : List Char) : Place := line.foldl Place.next ⟨.none, false⟩

variable {word? : Option (List Char)} {read word rest : List Char} {c : Char}

theorem scan_single (read : List Char) (free : '\'' ∉ word) :
    scan .single (some read) (word ++ '\'' :: rest) =
      scan .none (some (word.reverse ++ read)) rest := by
  induction word generalizing read with
  | nil => simp [scan]
  | cons c word ih =>
    obtain ⟨other, free⟩ : '\'' ≠ c ∧ '\'' ∉ word := by simpa using free
    rw [List.cons_append, scan, if_neg (Ne.symm other), push, Option.getD_some, ih _ free]
    simp

theorem scan_double (read word rest : List Char) :
    scan .double (some read) (word.flatMap guardQuoted ++ '"' :: rest) =
      scan .none (some (word.reverse ++ read)) rest := by
  induction word generalizing read with
  | nil => simp [scan]
  | cons c word ih =>
    have step : scan .double (some read)
        (guardQuoted c ++ (word.flatMap guardQuoted ++ '"' :: rest)) =
          scan .double (some (c :: read)) (word.flatMap guardQuoted ++ '"' :: rest) := by
      unfold guardQuoted
      split
      · simp [scan, push]
      · rename_i plain
        obtain ⟨noBackslash, noQuote⟩ := not_or.mp plain
        simp [scan, noBackslash, noQuote, push]
    rw [List.flatMap_cons, List.append_assoc, step, ih]
    simp

theorem scan_guarded (word? : Option (List Char)) (written : word ≠ []) :
    scan .none word? ((word.flatMap fun c => ['\\', c]) ++ rest) =
      scan .none (some (word.reverse ++ word?.getD [])) rest := by
  induction word generalizing word? with
  | nil => exact absurd rfl written
  | cons c word ih =>
    have step : scan .none word? (['\\', c] ++ ((word.flatMap fun c => ['\\', c]) ++ rest)) =
        scan .none (push word? c) ((word.flatMap fun c => ['\\', c]) ++ rest) := by
      simp [scan]
    rw [List.flatMap_cons, List.append_assoc, step]
    by_cases last : word = []
    · simp [last, push]
    · rw [ih (push word? c) last]
      simp [push]

/-- A word is read as a whole, whatever follows it. -/
theorem scan_text (w : Written) (rest : List Char) :
    scan .none none (w.text ++ rest) = scan .none (some w.word.toList.reverse) rest := by
  obtain ⟨word, spelling, suits⟩ := w
  cases spelling with
  | single => simpa [Written.text, Spelling.write, scan] using scan_single [] suits
  | double => simpa [Written.text, Spelling.write, scan] using scan_double [] _ rest
  | guarded => simpa [Written.text, Spelling.write] using scan_guarded none suits

theorem not_quote_of_blank (blank : Text.isBlank c = true) : c ≠ '\\' ∧ c ≠ '\'' ∧ c ≠ '"' := by
  refine ⟨?_, ?_, ?_⟩ <;> rintro rfl <;> revert blank <;> decide

/-- A blank ends the word before it. -/
theorem scan_blank (word? : Option (List Char)) (blank : Text.isBlank c = true) :
    scan .none word? (c :: rest) = (scan .none none rest).map (ended word? ++ ·) := by
  obtain ⟨noBackslash, noSingle, noDouble⟩ := not_quote_of_blank blank
  rw [scan]
  · simp [noSingle, noDouble, blank]
  · exact fun backslash _ => noBackslash backslash
  · exact fun _ _ backslash _ => noBackslash backslash

/-- Blanks before a word are passed over. -/
theorem scan_blanks (b : Blanks) (rest : List Char) :
    scan .none none (b.chars ++ rest) = scan .none none rest := by
  obtain ⟨chars, blank⟩ := b
  induction chars with
  | nil => rfl
  | cons c chars ih =>
    obtain ⟨first, others⟩ := List.forall_mem_cons.mp blank
    rw [List.cons_append, scan_blank none first, ih others]
    simp [ended]

theorem scan_gap (g : Gap) (rest : List Char) :
    scan .none (some word.reverse) (g.chars ++ rest) =
      (scan .none none rest).map (word :: ·) := by
  obtain ⟨⟨chars, blank⟩, wide⟩ := g
  obtain ⟨c, chars, rfl⟩ := List.exists_cons_of_ne_nil wide
  obtain ⟨first, others⟩ := List.forall_mem_cons.mp blank
  rw [List.cons_append, scan_blank _ first, scan_blanks ⟨chars, others⟩]
  simp [ended]

theorem scan_last (b : Blanks) : scan .none (some word.reverse) b.chars = some [word] := by
  obtain ⟨chars, blank⟩ := b
  cases chars with
  | nil => simp [scan, ended]
  | cons c chars =>
    have none : scan .none none chars = some [] := by
      simpa [scan, ended] using scan_blanks ⟨chars, (List.forall_mem_cons.mp blank).2⟩ []
    rw [scan_blank _ (List.forall_mem_cons.mp blank).1, none]
    simp [ended]

theorem scan_layOut (gap : Nat → Gap) (ws : List Written) (b : Blanks) :
    scan .none none (layOut gap ws ++ b.chars) = some (ws.map fun w => w.word.toList) := by
  induction ws generalizing gap with
  | nil => simpa [layOut, scan, ended] using scan_blanks b []
  | cons w ws ih =>
    cases ws with
    | nil => rw [layOut, scan_text, scan_last]; rfl
    | cons v ws =>
      rw [layOut, List.append_assoc, List.append_assoc, scan_text, scan_gap, ih]
      rfl

/-- A backslash that takes away the meaning of a character is read together with it. -/
theorem not_backslash (alone : c = '\\' → rest = [] → False)
    (pair : ∀ d more, c = '\\' → rest = d :: more → False) : c ≠ '\\' := by
  intro backslash
  cases rest with
  | nil => exact alone backslash rfl
  | cons d more => exact pair d more backslash rfl

/-- Whether there are words shows in the place behind the line only. -/
theorem scan_eq_none_iff (quotes : Quotes) (word? : Option (List Char)) (line : List Char) :
    scan quotes word? line = none ↔ (line.foldl Place.next ⟨quotes, false⟩).quotes ≠ .none := by
  fun_induction scan quotes word? line with
  | case1 | case2 | case8 | case11 | case12 => simp [Place.next]
  | case3 _ _ _ ih | case4 _ _ _ _ ih | case5 _ _ _ _ _ ih | case9 _ _ ih | case13 _ _ _ ih
  | case14 _ _ _ _ ih => simp [Place.next, ih]
  | case6 _ c rest alone pair single double _ ih =>
    simp [Place.next, not_backslash alone pair, single, double, ih]
  | case7 _ c rest alone pair single double _ ih =>
    simp [Place.next, not_backslash alone pair, single, double, ih]
  | case10 _ c rest single ih => simp [Place.next, single, ih]
  | case15 _ c rest alone pair double ih =>
    simp [Place.next, not_backslash alone pair, double, ih]

/-- Words that are written in any of these ways, with gaps between them and blanks around them, are
read back; and a line has no words exactly where its end stands between quotes. -/
theorem words_read_back :
    (∀ (gap : Nat → Gap) (ws : List Written) (before behind : Blanks),
      splitWords (String.ofList (before.chars ++ layOut gap ws ++ behind.chars)) =
        some (ws.map Written.word)) ∧
      ∀ line : String, splitWords line = none ↔ (placeAfter line.toList).quotes ≠ .none := by
  refine ⟨fun gap ws before behind => ?_, fun line => ?_⟩
  · have words : words? (before.chars ++ layOut gap ws ++ behind.chars) =
        some (ws.map fun w => w.word.toList) := by
      rw [words?, List.append_assoc, scan_blanks, scan_layOut]
    rw [splitWords, String.toList_ofList, words]
    simp [Function.comp_def]
  · rw [splitWords, Option.map_eq_none_iff]
    exact scan_eq_none_iff .none none line.toList

/-- Quotes can also begin inside a word, and a backslash at the end is passed over. -/
example : splitWords "say '' a\"b c\"\\ d \\" = some ["say", "", "ab c d"] := by decide

end Runbook.Shell
