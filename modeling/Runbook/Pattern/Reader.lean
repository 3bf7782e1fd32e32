import Runbook.Pattern.Reader.Bracket
import Runbook.Pattern.Reader.Group
/-! Reading written patterns: alternatives, sequences, repetitions, groups, places, escapes and
sets. Text that is no pattern reads as none. -/
namespace Runbook.Pattern.Reader

/-- A group that is open, with what was read in the group around it. -/
structure Opened where
  /-- The flags of the group, unless it captures. -/
  change? : Option FlagChange
  verbose : Bool
  branches : List Syntax
  items : List Syntax

structure State where
  /-- The open groups, the innermost first. -/
  opened : List Opened
  /-- The alternatives before the present one, the last first. -/
  branches : List Syntax
  /-- The items of the present alternative, the last first. -/
  items : List Syntax
  verbose : Bool
  names : List String

namespace State

def initial : State := ⟨[], [], [], false, []⟩

def add (st : State) (item : Syntax) : State := { st with items := item :: st.items }

/-- Goes on with the next alternative. -/
def branch (st : State) : State :=
  { st with branches := .ofSequence st.items.reverse :: st.branches, items := [] }

/-- What has been read of the present group. -/
def body (st : State) : Syntax := .ofAlternatives st.branch.branches.reverse

def setVerbose (st : State) (change : FlagChange) : State :=
  match change.find? (·.1 == .verbose) with
  | some e => { st with verbose := e.2 }
  | none => st

def enter (st : State) (change? : Option FlagChange) : State :=
  let inner := { st with
    opened := ⟨change?, st.verbose, st.branches, st.items⟩ :: st.opened
    branches := []
    items := [] }
  inner.setVerbose (change?.getD [])

/-- Closes the innermost group. -/
def leave? (st : State) : Option State :=
  match st.opened with
  | [] => none
  | o :: rest =>
    let group := match o.change? with
      | none => .capture st.body
      | some change => .group change st.body
    some { st with
      opened := rest
      branches := o.branches
      items := group :: o.items
      verbose := o.verbose }

/-- Repeats the last item, where there is one that can be repeated. -/
def repeat? (st : State) (least : Nat) (most : Option Nat) (prefersShort : Bool) :
    Option State :=
  match st.items with
  | [] | .flags _ :: _ => none
  | item :: rest => some { st with items := .repeated item least most prefersShort :: rest }

end State

/-- A question mark behind a repetition, which prefers short matches then. -/
def readPreference (s : List Char) : Bool × List Char :=
  match s with
  | '?' :: rest => (true, rest)
  | s => (false, s)

/-- The bounds of a counted repetition, from behind the opening brace. -/
def readBounds? (verbose : Bool) (s : List Char) : Option (Nat × Option Nat × List Char) :=
  match readCount? verbose (skip verbose s) with
  | some (least, '\x7d' :: after) => some (least, some least, after)
  | some (least, ',' :: rest) =>
    match skip verbose rest with
    | '\x7d' :: after => some (least, none, after)
    | rest =>
      match readCount? verbose rest with
      | some (most, '\x7d' :: after) =>
        if least ≤ most then some (least, some most, after) else none
      | _ => none
  | _ => none

theorem length_readBounds?_le {verbose : Bool} {s after : List Char} {least : Nat}
    {most : Option Nat} (h : readBounds? verbose s = some (least, most, after)) :
    after.length ≤ s.length := by
  unfold readBounds? at h
  have := length_skip_le verbose s
  split at h
  next n rest count => have := length_readCount?_le count; grind
  next n rest count =>
    have := length_readCount?_le count
    have := length_skip_le verbose rest
    split at h
    next => grind
    next s' _ =>
      split at h
      next m behind count' => have := length_readCount?_le count'; grind
      next => simp at h
  next => simp at h

/-- Goes on behind an opening parenthesis. A name is that of one group only. -/
def open? (st : State) (s : List Char) : Option (State × List Char) :=
  match readOpening? st.verbose s with
  | none => none
  | some (.flags change rest) => some ((st.add (.flags change)).setVerbose change, rest)
  | some (.group change rest) => some (st.enter change, rest)
  | some (.capture none rest) => some (st.enter none, rest)
  | some (.capture (some name) rest) =>
    if st.names.contains name then none
    else some ({ st with names := name :: st.names }.enter none, rest)

theorem length_open?_le {st next : State} {s after : List Char}
    (h : open? st s = some (next, after)) : after.length ≤ s.length := by
  unfold open? at h
  split at h
  next => simp at h
  next opening => have := length_readOpening?_le opening; grind [Opening.behind]
  next opening => have := length_readOpening?_le opening; grind [Opening.behind]
  next opening => have := length_readOpening?_le opening; grind [Opening.behind]
  next opening => have := length_readOpening?_le opening; grind [Opening.behind]

def repetition? (st : State) (least : Nat) (most : Option Nat) (s : List Char) :
    Option (State × List Char) :=
  let (prefersShort, rest) := readPreference s
  (st.repeat? least most prefersShort).map fun st => (st, rest)

theorem length_repetition?_le {st next : State} {least : Nat} {most : Option Nat}
    {s after : List Char} (h : repetition? st least most s = some (next, after)) :
    after.length ≤ s.length := by
  unfold repetition? readPreference at h
  grind [Option.map_eq_some_iff]

/-- One item or sign, from its first character on. -/
def step? (st : State) (c : Char) (rest : List Char) : Option (State × List Char) :=
  match c with
  | '(' => open? st rest
  | ')' => st.leave?.map fun st => (st, rest)
  | '|' => some (st.branch, rest)
  | '[' => (readBracket? st.verbose rest).map fun (s, rest) => (st.add (.set s), rest)
  | '*' => repetition? st 0 none rest
  | '+' => repetition? st 1 none rest
  | '?' => repetition? st 0 (some 1) rest
  | '\x7b' =>
    match readBounds? st.verbose rest with
    | some (least, most, rest) => repetition? st least most (skip st.verbose rest)
    | none => none
  | '.' => some (st.add .dot, rest)
  | '^' => some (st.add (.place .lineStart), rest)
  | '$' => some (st.add (.place .lineEnd), rest)
  | '\\' =>
    (readEscape? st.verbose rest).map fun (atom, rest) =>
      (st.add (match atom with
        | .letter l => .letter l
        | .place p => .place p
        | .set s => .set s), rest)
  | c => some (st.add (.letter ⟨c, false⟩), rest)

theorem length_step?_le {st next : State} {c : Char} {rest after : List Char}
    (h : step? st c rest = some (next, after)) : after.length ≤ rest.length := by
  unfold step? at h
  split at h
  next => exact length_open?_le h
  next => grind [Option.map_eq_some_iff]
  next => grind
  next =>
    obtain ⟨⟨t, behind⟩, bracket, eq⟩ := Option.map_eq_some_iff.1 h
    have := length_readBracket?_le bracket
    grind
  next => exact length_repetition?_le h
  next => exact length_repetition?_le h
  next => exact length_repetition?_le h
  next =>
    split at h
    next least most behind bounds =>
      have := length_readBounds?_le bounds
      have := length_skip_le st.verbose behind
      have := length_repetition?_le h
      omega
    next => simp at h
  next => grind
  next => grind
  next => grind
  next =>
    obtain ⟨⟨a, behind⟩, escape, eq⟩ := Option.map_eq_some_iff.1 h
    have := length_readEscape?_lt escape
    grind
  next => grind

/-- The pattern behind what has been read so far. Every step takes a character. -/
def readFrom? (st : State) (s : List Char) : Option Syntax :=
  match _next : skip st.verbose s with
  | [] => if st.opened.isEmpty then some st.body else none
  | c :: rest =>
    match _step : step? st c rest with
    | none => none
    | some (further, after) => readFrom? further after
  termination_by s.length
  decreasing_by
    have shorter := length_skip_le st.verbose s
    rw [_next] at shorter
    exact Nat.lt_of_le_of_lt (length_step?_le _step) shorter

/-- The pattern that a text is the written form of. -/
def read? (text : String) : Option Syntax := readFrom? .initial text.toList

end Runbook.Pattern.Reader
