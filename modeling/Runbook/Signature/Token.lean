import Runbook.Number.Decimal
import Runbook.Number.Shortest
import Runbook.Text.Blank
import Runbook.Text.Quoted
/-! Tokens of signatures. Blanks divide tokens and mean nothing else. -/
namespace Runbook.Signature

inductive Token where
  | name (s : String)
  | text (s : String)
  | int (n : Int64)
  | float (x : Binary64)
  | opening
  | closing
  | comma
  deriving DecidableEq

/-- A token as diagnostics show it. -/
def Token.described : Token → String
  | name s => "Ident(" ++ Text.quoted s ++ ")"
  | text s => "Str(" ++ Text.quoted s ++ ")"
  | int n => "Int(" ++ toString n.toInt ++ ")"
  | float x => "Float(" ++ x.text Binary64.diagnostic ++ ")"
  | opening => "LParen"
  | closing => "RParen"
  | comma => "Comma"

/-- Why a text is no signature. -/
inductive Fault where
  | unterminatedText
  | invalidNumber (s : String)
  | unexpectedCharacter (c : Char)
  | unexpectedToken (t : Token)
  | emptyExpression
  | wantedSeparator (found : Token)
  | missingClosing
  | leftOver (t : Token)
  deriving DecidableEq

def Fault.message : Fault → String
  | unterminatedText => "unterminated string literal"
  | invalidNumber s => "invalid number '" ++ s ++ "'"
  | unexpectedCharacter c => "unexpected character '" ++ c.toString ++ "'"
  | unexpectedToken t => "unexpected " ++ t.described
  | emptyExpression => "empty expression"
  | wantedSeparator t => "expected ',' or ')', found " ++ t.described
  | missingClosing => "missing ')'"
  | leftOver t => "unexpected " ++ t.described ++ " after expression"

def isNameStart (c : Char) : Bool := c.isAlpha || c == '_'

def isNamePart (c : Char) : Bool := c.isAlphanum || c == '_' || c == '.'

/-- What may follow the first character of a number. -/
def isNumberPart (c : Char) : Bool := c.isDigit || c == '.' || c == 'e' || c == 'E'

/-- Whether a number begins: a digit, or a minus sign with a digit after it. -/
def startsNumber : List Char → Bool
  | c :: rest => c.isDigit || (c == '-' && (rest.head?.any Char.isDigit))
  | [] => false

/-- The contents of a quoted text up to the closing quote, and what follows that. -/
def readText : List Char → Option (List Char × List Char)
  | [] => none
  | ['\\'] => none
  | '\\' :: c :: rest => (readText rest).map fun e => (c :: e.1, e.2)
  | c :: rest => if c = '"' then some ([], rest) else (readText rest).map fun e => (c :: e.1, e.2)

theorem length_readText {s found rest : List Char} (h : readText s = some (found, rest)) :
    rest.length < s.length := by
  fun_induction readText s generalizing found rest with
  | case1 => simp at h
  | case2 => simp at h
  | case3 c r ih =>
    simp only [Option.map_eq_some_iff, Prod.mk.injEq] at h
    obtain ⟨⟨f, r'⟩, hr, _, rfl⟩ := h
    have := ih hr
    simp only [List.length_cons]; omega
  | case4 c r hc =>
    simp only [Option.some.injEq, Prod.mk.injEq] at h
    rw [← h.2]; simp
  | case5 c r _ _ _ ih =>
    simp only [Option.map_eq_some_iff, Prod.mk.injEq] at h
    obtain ⟨⟨f, r'⟩, hr, _, rfl⟩ := h
    have := ih hr
    simp only [List.length_cons]; omega

/-- An integer where the numeral is one of 64 bits, else the floating-point number. -/
def number (s : String) : Except Fault Token :=
  match Numeral.integer64? s with
  | some n => .ok (.int n)
  | none =>
    match Binary64.read? s with
    | some x => .ok (.float x)
    | none => .error (.invalidNumber s)

theorem length_lt_of_readText {c : Char} {s rest : List Char} {found : List Char}
    (h : readText s = some (found, rest)) : rest.length < (c :: s).length := by
  have := length_readText h
  simp only [List.length_cons]; omega

theorem length_dropWhile_lt {p : Char → Bool} {c : Char} {rest : List Char} :
    (rest.dropWhile p).length < (c :: rest).length := by
  have := (List.dropWhile_sublist p (l := rest)).length_le
  simp only [List.length_cons]; omega

def tokens (s : List Char) : Except Fault (List Token) :=
  match s with
  | [] => .ok []
  | c :: rest =>
    if Text.isBlank c then tokens rest
    else if c = '(' then (tokens rest).map (.opening :: ·)
    else if c = ')' then (tokens rest).map (.closing :: ·)
    else if c = ',' then (tokens rest).map (.comma :: ·)
    else if c = '"' then
      match _h : readText rest with
      | none => .error .unterminatedText
      | some (found, after) => (tokens after).map (.text (String.ofList found) :: ·)
    else if startsNumber (c :: rest) then
      match number (String.ofList (c :: rest.takeWhile isNumberPart)) with
      | .error fault => .error fault
      | .ok token => (tokens (rest.dropWhile isNumberPart)).map (token :: ·)
    else if isNameStart c then
      (tokens (rest.dropWhile isNamePart)).map
        (.name (String.ofList (c :: rest.takeWhile isNamePart)) :: ·)
    else .error (.unexpectedCharacter c)
termination_by s.length
decreasing_by
  all_goals first
    | exact length_dropWhile_lt
    | exact length_lt_of_readText _h
    | simp

end Runbook.Signature
