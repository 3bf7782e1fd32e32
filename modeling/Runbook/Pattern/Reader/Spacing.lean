import Runbook.Number.Numeral
import Runbook.Text.Blank
/-! What may stand between the characters of a written pattern. In verbose patterns these are
blanks, and remarks from a number sign to the end of the line. -/
namespace Runbook.Pattern.Reader

/-- Text without the blanks and remarks before it; the flag says whether a remark is open. -/
def skipRemarks : Bool → List Char → List Char
  | _, [] => []
  | true, c :: rest => skipRemarks (c ≠ '\n') rest
  | false, c :: rest =>
    if Text.isBlank c then skipRemarks false rest
    else if c = '#' then skipRemarks true rest
    else c :: rest

def skip (verbose : Bool) (s : List Char) : List Char :=
  if verbose then skipRemarks false s else s

theorem length_skipRemarks_le (remark : Bool) (s : List Char) :
    (skipRemarks remark s).length ≤ s.length := by
  fun_induction skipRemarks remark s with
  | case1 => exact Nat.le_refl _
  | case2 _ _ ih => exact Nat.le_succ_of_le ih
  | case3 _ _ _ ih => exact Nat.le_succ_of_le ih
  | case4 _ _ ih => exact Nat.le_succ_of_le ih
  | case5 => exact Nat.le_refl _

theorem length_skip_le (verbose : Bool) (s : List Char) : (skip verbose s).length ≤ s.length := by
  unfold skip
  split
  · exact length_skipRemarks_le false s
  · exact Nat.le_refl _

/-- Up to `count` characters that are accepted, without what is between and behind them. -/
def takeSpaced (verbose : Bool) (accepts : Char → Bool) : Nat → List Char → List Char × List Char
  | count + 1, c :: rest =>
    if accepts c then
      let (taken, after) := takeSpaced verbose accepts count (skip verbose rest)
      (c :: taken, after)
    else ([], c :: rest)
  | _, s => ([], s)

theorem length_takeSpaced_le (verbose : Bool) (accepts : Char → Bool) (count : Nat)
    (s : List Char) : (takeSpaced verbose accepts count s).2.length ≤ s.length := by
  fun_induction takeSpaced verbose accepts count s with
  | case1 count c rest _ taken after eq ih =>
    rw [eq] at ih
    exact Nat.le_succ_of_le (Nat.le_trans ih (length_skip_le verbose rest))
  | case2 => exact Nat.le_refl _
  | case3 => exact Nat.le_refl _

/-- As many as there are. -/
def takeAll (verbose : Bool) (accepts : Char → Bool) : List Char → List Char × List Char
  | [] => ([], [])
  | c :: rest =>
    if accepts c then
      let (taken, after) := takeAll verbose accepts (skip verbose rest)
      (c :: taken, after)
    else ([], c :: rest)
  termination_by s => s.length
  decreasing_by exact Nat.lt_succ_of_le (length_skip_le verbose rest)

theorem length_takeAll_le (verbose : Bool) (accepts : Char → Bool) (s : List Char) :
    (takeAll verbose accepts s).2.length ≤ s.length := by
  fun_induction takeAll verbose accepts s with
  | case1 => exact Nat.le_refl _
  | case2 c rest _ taken after eq ih =>
    rw [eq] at ih
    exact Nat.le_succ_of_le (Nat.le_trans ih (length_skip_le verbose rest))
  | case3 => exact Nat.le_refl _

/-- The next character that counts, as far as one looks ahead: a remark that begins next is taken
for its first visible character. -/
def peek (verbose : Bool) (s : List Char) : Option Char :=
  if verbose then
    match Text.dropBlanks s with
    | '#' :: rest => (Text.dropBlanks rest).head?
    | s => s.head?
  else s.head?

/-- A number of repetitions, with blanks around it. -/
def readCount? (verbose : Bool) (s : List Char) : Option (Nat × List Char) :=
  let (digits, rest) := takeAll verbose Numeral.isDigit (Text.dropBlanks s)
  match Numeral.digits (UInt32.size - 1) .tooLarge digits with
  | .ok n => some (n, Text.dropBlanks rest)
  | .error _ => none

theorem length_dropBlanks_le (s : List Char) : (Text.dropBlanks s).length ≤ s.length :=
  (List.dropWhile_sublist _).length_le

theorem length_readCount?_le {verbose : Bool} {s rest : List Char} {n : Nat}
    (h : readCount? verbose s = some (n, rest)) : rest.length ≤ s.length := by
  unfold readCount? at h
  have all := length_takeAll_le verbose Numeral.isDigit (Text.dropBlanks s)
  have before := length_dropBlanks_le s
  have behind := length_dropBlanks_le (takeAll verbose Numeral.isDigit (Text.dropBlanks s)).2
  grind

end Runbook.Pattern.Reader
