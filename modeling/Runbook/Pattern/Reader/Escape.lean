import Runbook.Pattern.Reader.Spacing
import Runbook.Pattern.Syntax
import Runbook.Unicode.Rows
/-! Escapes: what a backslash and the characters behind it stand for. -/
namespace Runbook.Pattern.Reader

inductive Atom where
  | letter (l : Letter)
  | place (p : PlaceSyntax)
  | set (s : SetSyntax)
  deriving DecidableEq, Repr

def isHex (c : Char) : Bool := (Unicode.hexDigit? c).isSome

def scalar? (digits : List Char) : Option Char :=
  let n := Unicode.hexValue digits
  if !digits.isEmpty && n.isValidChar then some (Char.ofNat n) else none

/-- A character by its number: so many hexadecimal digits, or any number between braces. -/
def readNumbered? (verbose : Bool) (width : Nat) (s : List Char) : Option (Letter × List Char) :=
  match skip verbose s with
  | '\x7b' :: rest =>
    match takeAll verbose isHex (skip verbose rest) with
    | (digits, '\x7d' :: after) => (scalar? digits).map fun c => (⟨c, false⟩, skip verbose after)
    | _ => none
  | s =>
    let (digits, rest) := takeSpaced verbose isHex width s
    if digits.length = width then (scalar? digits).map fun c => (⟨c, width == 2⟩, rest) else none

theorem length_readNumbered?_le {verbose : Bool} {width : Nat} {s after : List Char} {l : Letter}
    (h : readNumbered? verbose width s = some (l, after)) : after.length ≤ s.length := by
  unfold readNumbered? at h
  have before := length_skip_le verbose s
  split at h
  next rest eq =>
    have := length_skip_le verbose rest
    have := length_takeAll_le verbose isHex (skip verbose rest)
    split at h
    next digits behind _ =>
      have := length_skip_le verbose behind
      grind [Option.map_eq_some_iff]
    next => simp at h
  next =>
    have := length_takeSpaced_le verbose isHex width (skip verbose s)
    grind [Option.map_eq_some_iff]

/-- The text before a mark and the one behind it. -/
def splitAt? (mark : List Char) : List Char → Option (List Char × List Char)
  | [] => none
  | c :: rest =>
    if mark.isPrefixOf (c :: rest) then some ([], (c :: rest).drop mark.length)
    else (splitAt? mark rest).map fun (before, behind) => (c :: before, behind)

/-- A question as it stands between braces, and whether it is for all other characters. -/
def query (s : List Char) : Query × Bool :=
  let valued (parts : List Char × List Char) : Query :=
    .valued (String.ofList parts.1) (String.ofList parts.2)
  match splitAt? ['!', '='] s, splitAt? [':'] s, splitAt? ['='] s with
  | some parts, _, _ => (valued parts, true)
  | none, some parts, _ => (valued parts, false)
  | none, none, some parts => (valued parts, false)
  | none, none, none => (.named (String.ofList s), false)

def readQuery? (verbose negated : Bool) (s : List Char) : Option (SetSyntax × List Char) :=
  match skip verbose s with
  | [] => none
  | '\x7b' :: rest =>
    match takeAll verbose (· ≠ '\x7d') (skip verbose rest) with
    | (name, '\x7d' :: after) =>
      let (q, others) := query name
      some (.query q (negated != others), after)
    | _ => none
  | c :: rest =>
    if c = '\\' then none
    else some (.query (.named (String.singleton c)) negated, skip verbose rest)

theorem length_readQuery?_le {verbose negated : Bool} {s after : List Char} {t : SetSyntax}
    (h : readQuery? verbose negated s = some (t, after)) : after.length ≤ s.length := by
  unfold readQuery? at h
  have before := length_skip_le verbose s
  split at h
  next => simp at h
  next rest eq =>
    have := length_skip_le verbose rest
    have := length_takeAll_le verbose (· ≠ '\x7d') (skip verbose rest)
    grind
  next c rest _ eq =>
    have := length_skip_le verbose rest
    grind

def isPlaceLetter (c : Char) : Bool := c.isAlpha || c == '-'

def wordPlace? (name : String) : Option WordPlace :=
  match name with
  | "start" => some .start
  | "end" => some .finish
  | "start-half" => some .startHalf
  | "end-half" => some .endHalf
  | _ => none

/-- The edge of a word, or a place that is named between braces. Braces that begin with no letter
count repetitions. -/
def readEdge? (verbose : Bool) (s : List Char) : Option (WordPlace × List Char) :=
  match s with
  | '\x7b' :: rest =>
    match skip verbose rest with
    | [] => none
    | c :: r =>
      if isPlaceLetter c then
        match takeAll verbose isPlaceLetter (c :: r) with
        | (name, '\x7d' :: after) => (wordPlace? (String.ofList name)).map fun p => (p, after)
        | _ => none
      else some (.edge, s)
  | _ => some (.edge, s)

theorem length_readEdge?_le {verbose : Bool} {s after : List Char} {p : WordPlace}
    (h : readEdge? verbose s = some (p, after)) : after.length ≤ s.length := by
  unfold readEdge? at h
  split at h
  next rest =>
    have := length_skip_le verbose rest
    split at h
    next => simp at h
    next c r eq =>
      have := length_takeAll_le verbose isPlaceLetter (c :: r)
      grind [Option.map_eq_some_iff]
  next => grind [Option.map_eq_some_iff]

/-- A letter that stands for a set, and whether it is for all other characters. -/
def shorthand? (c : Char) : Option (Shorthand × Bool) :=
  match c with
  | 'd' => some (.digit, false)
  | 'D' => some (.digit, true)
  | 's' => some (.space, false)
  | 'S' => some (.space, true)
  | 'w' => some (.word, false)
  | 'W' => some (.word, true)
  | _ => none

def placeLetter? (c : Char) : Option PlaceSyntax :=
  match c with
  | 'A' => some .textStart
  | 'z' => some .textEnd
  | 'B' => some (.word .inner)
  | '<' => some (.word .start)
  | '>' => some (.word .finish)
  | _ => none

/-- An escaped character that stands for one character. -/
def escaped? (c : Char) : Option Char :=
  match c with
  | 'n' => some '\n'
  | 't' => some '\t'
  | 'r' => some '\r'
  | 'a' => some '\x07'
  | 'f' => some '\x0c'
  | 'v' => some '\x0b'
  | c => if c.toNat < 0x80 && !c.isAlphanum then some c else none

/-- What an escape stands for, behind its backslash. -/
def readEscape? (verbose : Bool) (s : List Char) : Option (Atom × List Char) :=
  let letter : Letter × List Char → Atom × List Char := fun (l, rest) => (.letter l, rest)
  let set : SetSyntax × List Char → Atom × List Char := fun (t, rest) => (.set t, rest)
  match s with
  | [] => none
  | 'x' :: rest => (readNumbered? verbose 2 rest).map letter
  | 'u' :: rest => (readNumbered? verbose 4 rest).map letter
  | 'U' :: rest => (readNumbered? verbose 8 rest).map letter
  | 'p' :: rest => (readQuery? verbose false rest).map set
  | 'P' :: rest => (readQuery? verbose true rest).map set
  | 'b' :: rest => (readEdge? verbose rest).map fun (p, rest) => (.place (.word p), rest)
  | c :: rest =>
    match shorthand? c, placeLetter? c with
    | some (t, negated), _ => some (.set (.shorthand t negated), rest)
    | none, some p => some (.place p, rest)
    | none, none => (escaped? c).map fun c => (.letter ⟨c, false⟩, rest)

/-- An escape takes at least one character. -/
theorem length_readEscape?_lt {verbose : Bool} {s after : List Char} {a : Atom}
    (h : readEscape? verbose s = some (a, after)) : after.length < s.length := by
  unfold readEscape? at h
  split at h
  next => simp at h
  all_goals simp only [Option.map_eq_some_iff, Prod.exists, Prod.mk.injEq] at h
  next => obtain ⟨_, _, h, _, rfl⟩ := h; exact Nat.lt_succ_of_le (length_readNumbered?_le h)
  next => obtain ⟨_, _, h, _, rfl⟩ := h; exact Nat.lt_succ_of_le (length_readNumbered?_le h)
  next => obtain ⟨_, _, h, _, rfl⟩ := h; exact Nat.lt_succ_of_le (length_readNumbered?_le h)
  next => obtain ⟨_, _, h, _, rfl⟩ := h; exact Nat.lt_succ_of_le (length_readQuery?_le h)
  next => obtain ⟨_, _, h, _, rfl⟩ := h; exact Nat.lt_succ_of_le (length_readQuery?_le h)
  next => obtain ⟨_, _, h, _, rfl⟩ := h; exact Nat.lt_succ_of_le (length_readEdge?_le h)
  next => grind [Option.map_eq_some_iff]

end Runbook.Pattern.Reader
