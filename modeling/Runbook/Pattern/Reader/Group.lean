import Runbook.Pattern.Reader.Spacing
import Runbook.Pattern.Syntax
import Runbook.Unicode.Property
/-! How groups begin: with a name, with flags, or with nothing but a parenthesis. -/
namespace Runbook.Pattern.Reader

def flag? (c : Char) : Option Flag :=
  match c with
  | 'i' => some .ignoreCase
  | 'm' => some .multiLine
  | 's' => some .dotAll
  | 'U' => some .swapGreed
  | 'u' => some .unicode
  | 'R' => some .crlf
  | 'x' => some .verbose
  | _ => none

/-- Flags up to the mark that ends them. Each is there once, and those behind the one hyphen are
taken away; a hyphen is not the last of them. -/
def readFlags? (seen : FlagChange) (value : Bool) : List Char → Option (FlagChange × List Char)
  | [] => none
  | c :: rest =>
    if c = ')' ∨ c = ':' then some (seen, c :: rest)
    else if c = '-' then
      if value ∧ rest.head? ≠ some ')' ∧ rest.head? ≠ some ':' then readFlags? seen false rest
      else none
    else
      match flag? c with
      | some f =>
        if seen.any (·.1 == f) then none else readFlags? (seen ++ [(f, value)]) value rest
      | none => none

theorem length_readFlags?_le {seen change : FlagChange} {value : Bool} {s after : List Char}
    (h : readFlags? seen value s = some (change, after)) : after.length ≤ s.length := by
  fun_induction readFlags? seen value s with
  | case1 => simp at h
  | case2 => grind
  | case3 => grind
  | case4 => simp at h
  | case5 => simp at h
  | case6 _ _ _ _ _ _ _ _ _ ih => exact Nat.le_succ_of_le (ih h)
  | case7 => simp at h

def nameStart : CharSet := Unicode.Property.alphabetic .seventeen ∪ .singleton '_'

def namePart : CharSet :=
  .unions [Unicode.Property.alphanumeric .seventeen, .singleton '_', .singleton '.',
    .singleton '[', .singleton ']']

def isGroupName (name : List Char) : Bool :=
  match name with
  | [] => false
  | c :: rest => nameStart.contains c && rest.all namePart.contains

inductive Opening where
  | capture (name? : Option String) (rest : List Char)
  | group (change : FlagChange) (rest : List Char)
  /-- Flags for the rest of the group around. -/
  | flags (change : FlagChange) (rest : List Char)

/-- What is behind the beginning of a group. -/
def Opening.behind : Opening → List Char
  | capture _ rest | group _ rest | flags _ rest => rest

def readName? (s : List Char) : Option Opening :=
  match s.dropWhile (· ≠ '>') with
  | [] => none
  | _ :: after =>
    let name := s.takeWhile (· ≠ '>')
    if isGroupName name then some (.capture (String.ofList name) after) else none

theorem length_readName?_le {s : List Char} {o : Opening} (h : readName? s = some o) :
    o.behind.length ≤ s.length := by
  unfold readName? at h
  have := (List.dropWhile_sublist (· ≠ '>') (l := s)).length_le
  grind [Opening.behind]

/-- How a group begins, from behind its parenthesis. Groups that only look ahead or back are not
patterns here. -/
def readOpening? (verbose : Bool) (s : List Char) : Option Opening :=
  match skip verbose s with
  | '?' :: '=' :: _ | '?' :: '!' :: _ | '?' :: '<' :: '=' :: _ | '?' :: '<' :: '!' :: _ => none
  | '?' :: 'P' :: '<' :: rest | '?' :: '<' :: rest => readName? rest
  | '?' :: rest =>
    match readFlags? [] true rest with
    | some (change, ':' :: after) => some (.group change after)
    | some (change, _ :: after) => if change.isEmpty then none else some (.flags change after)
    | _ => none
  | s => some (.capture none s)

theorem length_readOpening?_le {verbose : Bool} {s : List Char} {o : Opening}
    (h : readOpening? verbose s = some o) : o.behind.length ≤ s.length := by
  unfold readOpening? at h
  have := length_skip_le verbose s
  split at h
  next => simp at h
  next => simp at h
  next => simp at h
  next => simp at h
  next rest eq => have := length_readName?_le h; grind
  next rest eq => have := length_readName?_le h; grind
  next rest _ _ _ _ _ _ eq =>
    split at h
    next change after flags => have := length_readFlags?_le flags; grind [Opening.behind]
    next change c after _ flags => have := length_readFlags?_le flags; grind [Opening.behind]
    next => simp at h
  next => grind [Opening.behind]

end Runbook.Pattern.Reader
