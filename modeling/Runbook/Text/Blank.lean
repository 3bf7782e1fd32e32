/-! White space, and the cuts of text that are made at it. Text is cut as a list of
characters; the functions on `String` are the same cuts on `toList`. -/
namespace Runbook.Text

/-- The 25 characters with Unicode's `White_Space` property. -/
def isBlank (c : Char) : Bool :=
  let n := c.toNat
  (9 ≤ n && n ≤ 13) || n == 0x20 || n == 0x85 || n == 0xA0 || n == 0x1680 ||
    (0x2000 ≤ n && n ≤ 0x200A) || n == 0x2028 || n == 0x2029 || n == 0x202F ||
    n == 0x205F || n == 0x3000

/-- The stretches between the characters that satisfy `p`; there is always one more of
them than such characters. -/
def cut (p : Char → Bool) : List Char → List (List Char)
  | [] => [[]]
  | c :: rest =>
    if p c then [] :: cut p rest
    else match cut p rest with
      | [] => [[c]]
      | piece :: pieces => (c :: piece) :: pieces

@[simp] theorem cut_ne_nil (p : Char → Bool) (s : List Char) : cut p s ≠ [] := by
  cases s with
  | nil => simp [cut]
  | cons c rest => simp only [cut]; split <;> try split
                   all_goals simp

/-- Text without the blanks before it. -/
def dropBlanks (s : List Char) : List Char := s.dropWhile isBlank

/-- Text without the blanks after it. -/
def dropBlanksEnd (s : List Char) : List Char := (s.reverse.dropWhile isBlank).reverse

/-- Text without the blanks around it. -/
def strip (s : List Char) : List Char := dropBlanksEnd (dropBlanks s)

/-- The maximal runs of characters that are not blank, in order. -/
def runs (s : List Char) : List (List Char) := (cut isBlank s).filter (!·.isEmpty)

def trim (s : String) : String := String.ofList (strip s.toList)

def trimEnd (s : String) : String := String.ofList (dropBlanksEnd s.toList)

def words (s : String) : List String := (runs s.toList).map String.ofList

def hasBlank (s : String) : Bool := s.toList.any isBlank

/-- The trimmed text, where there is any. -/
def nonBlank (s : String) : Option String :=
  let t := trim s
  if t.isEmpty then none else some t

/-- ASCII letters in lower case; every other character is kept. -/
def lowerAscii (s : String) : String := s.map Char.toLower

end Runbook.Text
