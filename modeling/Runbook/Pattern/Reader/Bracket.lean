import Runbook.Pattern.Reader.Escape
/-! Sets between brackets: characters, ranges, escapes, named sets, brackets in brackets, and the
operations on what is before and behind them. -/
namespace Runbook.Pattern.Reader

/-- The named sets, which are all of ASCII characters. -/
def asciiSets : List (String × String) := [
  ("alnum", "30-39 41-5A 61-7A"),
  ("alpha", "41-5A 61-7A"),
  ("ascii", "0-7F"),
  ("blank", "9 20"),
  ("cntrl", "0-1F 7F"),
  ("digit", "30-39"),
  ("graph", "21-7E"),
  ("lower", "61-7A"),
  ("print", "20-7E"),
  ("punct", "21-2F 3A-40 5B-60 7B-7E"),
  ("space", "9-D 20"),
  ("upper", "41-5A"),
  ("word", "30-39 41-5A 5F 61-7A"),
  ("xdigit", "30-39 41-46 61-66")]

def isAsciiSet (name : String) : Bool := asciiSets.any fun e => e.1 == name

/-- A named set right behind its opening bracket: a colon, a name, a colon and a bracket. -/
def readAscii? (s : List Char) : Option (SetSyntax × List Char) :=
  match s with
  | ':' :: rest =>
    let (negated, rest) := match rest with
      | '^' :: r => (true, r)
      | r => (false, r)
    match rest.dropWhile (· ≠ ':') with
    | ':' :: ']' :: after =>
      let name := String.ofList (rest.takeWhile (· ≠ ':'))
      if isAsciiSet name then some (.ascii name negated, after) else none
    | _ => none
  | _ => none

theorem length_dropWhile_le (p : Char → Bool) (s : List Char) : (s.dropWhile p).length ≤ s.length :=
  (List.dropWhile_sublist p).length_le

theorem length_readAscii?_le {s after : List Char} {t : SetSyntax}
    (h : readAscii? s = some (t, after)) : after.length ≤ s.length := by
  unfold readAscii? at h
  split at h
  next rest =>
    split at h
    next negated rest' eq =>
      have := length_dropWhile_le (· ≠ ':') rest'
      grind
  next => simp at h

/-- A bracket that is open. -/
structure Bracket where
  negated : Bool
  /-- What an operation applies to, when one has been read. -/
  left? : Option (SetOperation × SetSyntax)
  /-- What has been read since, the last member first. -/
  members : List SetSyntax

namespace Bracket

def add (b : Bracket) (s : SetSyntax) : Bracket := { b with members := s :: b.members }

/-- What has been read so far as one set. -/
def body (b : Bracket) : SetSyntax :=
  let members := SetSyntax.ofMembers b.members.reverse
  match b.left? with
  | some (op, left) => .combined op left members
  | none => members

def operate (b : Bracket) (op : SetOperation) : Bracket := ⟨b.negated, some (op, b.body), []⟩

/-- The bracket that begins, from behind its first character. Hyphens that come first, or else a
closing bracket, mean themselves. -/
def read (verbose : Bool) (s : List Char) : Bracket × List Char :=
  let (negated, s) := match skip verbose s with
    | '^' :: rest => (true, skip verbose rest)
    | s => (false, s)
  let (hyphens, rest) := takeAll verbose (· = '-') s
  match hyphens, rest with
  | [], ']' :: rest => (⟨negated, none, [.letter ⟨']', false⟩]⟩, skip verbose rest)
  | _, _ => (⟨negated, none, hyphens.map fun c => .letter ⟨c, false⟩⟩, rest)

theorem length_read_le (verbose : Bool) (s : List Char) : (read verbose s).2.length ≤ s.length := by
  unfold read
  have := length_skip_le verbose s
  split
  next negated s' eq =>
    have := length_takeAll_le verbose (· = '-') s'
    have shorter : s'.length ≤ s.length := by
      split at eq
      next rest _ =>
        have := length_skip_le verbose rest
        grind
      next => grind
    split
    split
    next rest _ =>
      have := length_skip_le verbose rest
      grind
    next => grind

end Bracket

def readItem? (verbose : Bool) (s : List Char) : Option (Atom × List Char) :=
  match s with
  | [] => none
  | '\\' :: rest => readEscape? verbose rest
  | c :: rest => some (.letter ⟨c, false⟩, rest)

theorem length_readItem?_lt {verbose : Bool} {s after : List Char} {a : Atom}
    (h : readItem? verbose s = some (a, after)) : after.length < s.length := by
  unfold readItem? at h
  split at h
  next => simp at h
  next => exact Nat.lt_succ_of_lt (length_readEscape?_lt h)
  next => grind

/-- What an item is in a bracket; places are nothing there. -/
def member? : Atom → Option SetSyntax
  | .letter l => some (.letter l)
  | .set s => some s
  | .place _ => none

/-- An item, or a range between two characters. -/
def readRange? (verbose : Bool) (s : List Char) : Option (SetSyntax × List Char) :=
  match readItem? verbose s with
  | none => none
  | some (first, rest) =>
    match skip verbose rest with
    | '-' :: rest =>
      if peek verbose rest = some ']' ∨ peek verbose rest = some '-' then
        (member? first).map fun s => (s, '-' :: rest)
      else
        match first, readItem? verbose (skip verbose rest) with
        | .letter a, some (.letter b, after) =>
          if a.char ≤ b.char then some (.range a b, after) else none
        | _, _ => none
    | rest => (member? first).map fun s => (s, rest)

theorem length_readRange?_lt {verbose : Bool} {s after : List Char} {t : SetSyntax}
    (h : readRange? verbose s = some (t, after)) : after.length < s.length := by
  unfold readRange? at h
  split at h
  next => simp at h
  next first rest item =>
    have := length_readItem?_lt item
    have := length_skip_le verbose rest
    split at h
    next rest' eq =>
      split at h
      next => grind [Option.map_eq_some_iff]
      next =>
        have := length_skip_le verbose rest'
        split at h
        next b behind other =>
          have := length_readItem?_lt other
          grind
        next => simp at h
    next => grind [Option.map_eq_some_iff]

/-- The operation whose sign begins the text. -/
def operation? : List Char → Option (SetOperation × List Char)
  | '&' :: '&' :: rest => some (.intersection, rest)
  | '-' :: '-' :: rest => some (.difference, rest)
  | '~' :: '~' :: rest => some (.symmetricDifference, rest)
  | _ => none

theorem length_operation?_lt {s after : List Char} {op : SetOperation}
    (h : operation? s = some (op, after)) : after.length < s.length := by
  unfold operation? at h
  split at h <;> grind

/-- The rest of a bracket that is open within others, the innermost one first. -/
def readBrackets? (verbose : Bool) (b : Bracket) (outer : List Bracket) (s : List Char) :
    Option (SetSyntax × List Char) :=
  match _next : skip verbose s with
  | [] => none
  | ']' :: rest =>
    match outer with
    | [] => some (.bracket b.negated b.body, rest)
    | o :: outer => readBrackets? verbose (o.add (.bracket b.negated b.body)) outer rest
  | '[' :: rest =>
    match _ascii : readAscii? rest with
    | some (set, after) => readBrackets? verbose (b.add set) outer after
    | none =>
      readBrackets? verbose (Bracket.read verbose rest).1 (b :: outer)
        (Bracket.read verbose rest).2
  | c :: rest =>
    match _sign : operation? (c :: rest) with
    | some (op, after) => readBrackets? verbose (b.operate op) outer after
    | none =>
      match _range : readRange? verbose (c :: rest) with
      | some (set, after) => readBrackets? verbose (b.add set) outer after
      | none => none
  termination_by s.length
  decreasing_by
    all_goals
      have shorter := length_skip_le verbose s
      rw [_next] at shorter
    next => exact shorter
    next => exact Nat.lt_of_le_of_lt (length_readAscii?_le _ascii) shorter
    next => exact Nat.lt_of_le_of_lt (Bracket.length_read_le verbose rest) shorter
    next => exact Nat.lt_of_lt_of_le (length_operation?_lt _sign) shorter
    next => exact Nat.lt_of_lt_of_le (length_readRange?_lt _range) shorter

theorem length_readBrackets?_le {verbose : Bool} {b : Bracket} {outer : List Bracket}
    {s after : List Char} {t : SetSyntax} (h : readBrackets? verbose b outer s = some (t, after)) :
    after.length ≤ s.length := by
  fun_induction readBrackets? verbose b outer s with
  | case1 => simp at h
  | case2 b s rest next =>
    have := length_skip_le verbose s
    grind
  | case3 b s rest next o outer ih =>
    have := length_skip_le verbose s
    have := ih h
    grind
  | case4 b outer s rest next set behind ascii ih =>
    have := length_skip_le verbose s
    have := length_readAscii?_le ascii
    have := ih h
    grind
  | case5 b outer s rest next ascii ih =>
    have := length_skip_le verbose s
    have := Bracket.length_read_le verbose rest
    have := ih h
    grind
  | case6 b outer s c rest _ _ next op behind sign ih =>
    have := length_skip_le verbose s
    have := length_operation?_lt sign
    have := ih h
    grind
  | case7 b outer s c rest _ _ next sign set behind range ih =>
    have := length_skip_le verbose s
    have := length_readRange?_lt range
    have := ih h
    grind
  | case8 => simp at h

/-- A bracket from behind its first character. -/
def readBracket? (verbose : Bool) (s : List Char) : Option (SetSyntax × List Char) :=
  let (b, rest) := Bracket.read verbose s
  readBrackets? verbose b [] rest

theorem length_readBracket?_le {verbose : Bool} {s after : List Char} {t : SetSyntax}
    (h : readBracket? verbose s = some (t, after)) : after.length ≤ s.length :=
  Nat.le_trans (length_readBrackets?_le h) (Bracket.length_read_le verbose s)

end Runbook.Pattern.Reader
