import Runbook.Signature.Token
/-! Expressions of signatures. A name right before an opening parenthesis is a call; of the
other names, three are literals. -/
namespace Runbook.Signature

inductive Expression where
  | text (s : String)
  | int (n : Int64)
  | float (x : Binary64)
  | bool (b : Bool)
  | null
  | name (s : String)
  | call (function : String) (arguments : List Expression)

/-- What a name stands for when it is not called. -/
def ofName (s : String) : Expression :=
  match s with
  | "true" => .bool true
  | "false" => .bool false
  | "null" => .null
  | _ => .name s

/-- Something read from the front of the tokens, and the fewer ones that are left. -/
abbrev Parsed (α : Type) (ts : List Token) :=
  Except Fault (α × { rest : List Token // rest.length < ts.length })

mutual

def expression (ts : List Token) : Parsed Expression ts :=
  match ts with
  | [] => .error .emptyExpression
  | .text s :: rest => .ok (.text s, ⟨rest, by simp⟩)
  | .int n :: rest => .ok (.int n, ⟨rest, by simp⟩)
  | .float x :: rest => .ok (.float x, ⟨rest, by simp⟩)
  | .name s :: .opening :: rest =>
    match argumentList rest with
    | .error fault => .error fault
    | .ok (arguments, ⟨after, h⟩) =>
      .ok (.call s arguments, ⟨after, by simp only [List.length_cons]; omega⟩)
  | .name s :: rest => .ok (ofName s, ⟨rest, by simp⟩)
  | t :: _ => .error (.unexpectedToken t)
termination_by (ts.length, 0)

/-- The arguments and the closing parenthesis. -/
def argumentList (ts : List Token) : Parsed (List Expression) ts :=
  match ts with
  | .closing :: rest => .ok ([], ⟨rest, by simp⟩)
  | [] => .error .emptyExpression
  | t :: rest => moreArguments (t :: rest)
termination_by (ts.length, 2)

/-- One argument or more, divided by commas, and the closing parenthesis. -/
def moreArguments (ts : List Token) : Parsed (List Expression) ts :=
  match expression ts with
  | .error fault => .error fault
  | .ok (e, ⟨.comma :: rest, h⟩) =>
    match moreArguments rest with
    | .error fault => .error fault
    | .ok (es, ⟨after, h'⟩) =>
      .ok (e :: es, ⟨after, by simp only [List.length_cons] at h; omega⟩)
  | .ok (e, ⟨.closing :: rest, h⟩) =>
    .ok ([e], ⟨rest, by simp only [List.length_cons] at h; omega⟩)
  | .ok (_, ⟨t :: _, _⟩) => .error (.wantedSeparator t)
  | .ok (_, ⟨[], _⟩) => .error .missingClosing
termination_by (ts.length, 1)
decreasing_by
  · exact Prod.Lex.right _ (by omega)
  · exact Prod.Lex.left _ _ (Nat.lt_trans (by simp) h)

end

/-- The expression that all of the tokens make up. -/
def whole (ts : List Token) : Except Fault Expression :=
  match expression ts with
  | .error fault => .error fault
  | .ok (e, ⟨[], _⟩) => .ok e
  | .ok (_, ⟨t :: _, _⟩) => .error (.leftOver t)

/-- Reads a signature. A text that has no tokens is the first fault to be found, so that of two
faults the one in the spelling counts. -/
def parse (s : String) : Except Fault Expression := do
  whole (← tokens s.toList)

end Runbook.Signature
