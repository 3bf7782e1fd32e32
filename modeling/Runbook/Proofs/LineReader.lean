import Mathlib.Algebra.Ring.Nat
import Runbook.Proofs.ControlText
import Runbook.Proofs.Encoding
import Runbook.Proofs.Reading
/-! Record streams as readers of lines. A stream keeps the number of bytes that it has taken; what
it answers is what a reader answers that stands before one of the lines with something in them. -/
namespace Runbook

/-- A reader of the lines of a file: which of them is next, and how many records it has given. -/
structure LineReader where
  path : String
  type : RecordType
  lines : List String
  cursor : Nat
  count : Nat
  closed : Bool

namespace LineReader

def fresh (path : String) (type : RecordType) (lines : List String) : LineReader :=
  ⟨path, type, lines, 0, 0, false⟩

/-- What the next line gives. A line that is not a record has been passed all the same. -/
def next (r : LineReader) : Except Failure Value × LineReader :=
  if r.closed then (.error ⟨.illegalState, "stream '" ++ r.path ++ "' is closed"⟩, r)
  else
    match r.lines[r.cursor]? with
    | none =>
      (.error ⟨.noSuchElement, "end of stream '" ++ r.path ++ "' after " ++ toString r.count ++
        " records"⟩, r)
    | some line =>
      match r.type.decode? line with
      | some v => (.ok v, { r with cursor := r.cursor + 1, count := r.count + 1 })
      | none =>
        (.error ⟨.illegalArgument, "not " ++ r.type.wanted ++ ": " ++ line⟩,
          { r with cursor := r.cursor + 1 })

/-- How a batch comes about when it has `got` some records: by one line after the other. -/
inductive Takes (limit : Option Nat) :
    List Value → LineReader → Except Failure (List Value) → LineReader → Prop
  | full {n : Nat} {got : List Value} {r : LineReader} (limited : limit = some n)
      (reached : n ≤ got.length) : Takes limit got r (.ok got) r
  | record {got : List Value} {r r' r'' : LineReader} {v : Value}
      {result : Except Failure (List Value)} (room : ∀ n, limit = some n → got.length < n)
      (next : r.next = (.ok v, r')) (more : Takes limit (got ++ [v]) r' result r'') :
      Takes limit got r result r''
  /-- The end is no failure once there is a record, or without a limit. -/
  | ended {got : List Value} {r r' : LineReader} {f : Failure}
      (room : ∀ n, limit = some n → got.length < n) (next : r.next = (.error f, r'))
      (atEnd : f.kind = .noSuchElement) (fine : got ≠ [] ∨ limit = none) :
      Takes limit got r (.ok got) r'
  | failed {got : List Value} {r r' : LineReader} {f : Failure}
      (room : ∀ n, limit = some n → got.length < n) (next : r.next = (.error f, r'))
      (fatal : f.kind = .noSuchElement → got = [] ∧ limit ≠ none) :
      Takes limit got r (.error f) r'

end LineReader

inductive RecordStream.Call where
  | next
  | take (limit : Option Nat)
  | reset
  | close

inductive RecordStream.Answer where
  | record (result : Except Failure Value)
  | batch (result : Except Failure (List Value))
  | done

structure RecordStream.Reply where
  answer : Answer
  position : Nat
  closed : Bool

namespace RecordStream

def Answer.values : Answer → List Value
  | .record (.ok v) => [v]
  | .batch (.ok vs) => vs
  | _ => []

def call (files : FileTree) (s : RecordStream) : Call → Answer × RecordStream
  | .next => (s.next files).map .record id
  | .take limit => (s.take files limit).map .batch id
  | .reset => (.done, s.reset)
  | .close => (.done, s.close)

def replies (files : FileTree) (s : RecordStream) : List Call → List Reply
  | [] => []
  | c :: calls =>
    let (answer, s) := s.call files c
    ⟨answer, s.position, s.closed⟩ :: s.replies files calls

end RecordStream

namespace LineReader

open RecordStream (Call Answer Reply)

inductive Answers (r : LineReader) : Call → Answer → LineReader → Prop
  | next {result : Except Failure Value} {r' : LineReader} (next : r.next = (result, r')) :
      Answers r .next (.record result) r'
  | take {limit : Option Nat} {result : Except Failure (List Value)} {r' : LineReader}
      (takes : Takes limit [] r result r') : Answers r (.take limit) (.batch result) r'
  | reset : Answers r .reset .done (fresh r.path r.type r.lines)
  | close : Answers r .close .done { r with closed := true }

/-- How a reader answers one call after the other. -/
inductive Converses : LineReader → List Call → List Reply → Prop
  | nil {r : LineReader} : Converses r [] []
  | cons {r r' : LineReader} {c : Call} {answer : Answer} {calls : List Call}
      {replies : List Reply} (first : r.Answers c answer r')
      (rest : Converses r' calls replies) :
      Converses r (c :: calls) (⟨answer, r'.count, r'.closed⟩ :: replies)

variable {limit : Option Nat} {got : List Value} {r r' r'' : LineReader} {v : Value} {c : Call}
  {answer answer' : Answer} {calls : List Call} {replies replies' : List Reply}
  {result result' : Except Failure (List Value)}

theorem next_eq_ok (h : r.next = (.ok v, r')) :
    r.cursor < r.lines.length ∧ r' = { r with cursor := r.cursor + 1, count := r.count + 1 } := by
  unfold next at h
  split at h
  · cases h
  split at h
  · cases h
  · rename_i line there
    obtain ⟨inside, -⟩ := List.getElem?_eq_some_iff.mp there
    split at h
    · cases h
      exact ⟨inside, rfl⟩
    · cases h

theorem Takes.unique (h : Takes limit got r result r') (h' : Takes limit got r result' r'') :
    result = result' ∧ r' = r'' := by
  induction h with
  | full limited reached =>
    cases h' with
    | full => exact ⟨rfl, rfl⟩
    | record room | ended room | failed room => exact absurd (room _ limited) (by omega)
  | record room next more ih =>
    cases h' with
    | full limited reached => exact absurd (room _ limited) (by omega)
    | record _ next' more' =>
      cases next.symm.trans next'
      exact ih more'
    | ended _ next' | failed _ next' => cases next.symm.trans next'
  | ended room next atEnd fine =>
    cases h' with
    | full limited reached => exact absurd (room _ limited) (by omega)
    | record _ next' => cases next.symm.trans next'
    | ended _ next' =>
      cases next.symm.trans next'
      exact ⟨rfl, rfl⟩
    | failed _ next' fatal =>
      cases next.symm.trans next'
      exact absurd (fatal atEnd) (by tauto)
  | failed room next fatal =>
    cases h' with
    | full limited reached => exact absurd (room _ limited) (by omega)
    | record _ next' => cases next.symm.trans next'
    | ended _ next' atEnd =>
      cases next.symm.trans next'
      exact absurd (fatal atEnd) (by tauto)
    | failed _ next' =>
      cases next.symm.trans next'
      exact ⟨rfl, rfl⟩

theorem Answers.unique (h : r.Answers c answer r') (h' : r.Answers c answer' r'') :
    answer = answer' ∧ r' = r'' := by
  cases h with
  | take takes =>
    cases h' with
    | take takes' =>
      obtain ⟨rfl, rfl⟩ := takes.unique takes'
      exact ⟨rfl, rfl⟩
  | next next =>
    cases h' with
    | next next' =>
      cases next.symm.trans next'
      exact ⟨rfl, rfl⟩
  | reset | close =>
    cases h'
    exact ⟨rfl, rfl⟩

theorem Converses.unique (h : r.Converses calls replies) (h' : r.Converses calls replies') :
    replies = replies' := by
  induction h generalizing replies' with
  | nil =>
    cases h'
    rfl
  | cons first _ ih =>
    cases h' with
    | cons first' rest' =>
      obtain ⟨rfl, rfl⟩ := first.unique first'
      rw [ih rest']

end LineReader

namespace Text

variable {s line rest : List Char}

/-- A blank at the end is not looked at. -/
theorem strip_concat {c : Char} (blank : isBlank c = true) : strip (s ++ [c]) = strip s := by
  rw [strip, dropBlanks, List.dropWhile_append]
  by_cases empty : (s.dropWhile isBlank).isEmpty = true
  · rw [if_pos empty, strip, dropBlanks, List.isEmpty_iff.mp empty]
    simp [blank]
  · rw [if_neg empty, strip, dropBlanksEnd, dropBlanksEnd, dropBlanks, List.reverse_append]
    simp [blank]

theorem strip_dropReturn (s : List Char) : strip (dropReturn s) = strip s := by
  unfold dropReturn
  split
  · rename_i returns
    obtain ⟨front, rfl⟩ := List.getLast?_eq_some_iff.mp returns
    rw [List.dropLast_concat, strip_concat (by decide)]
  · rfl

def entries (s : List Char) : List String :=
  (lineList s).filterMap fun line => nonBlank (String.ofList line)

theorem entries_eq (text : String) : entries text.toList = (lines text).filterMap nonBlank := by
  simp only [entries, lines, List.filterMap_map, Function.comp_def]

theorem nonBlank_congr {s t : List Char} (same : strip s = strip t) :
    nonBlank (String.ofList s) = nonBlank (String.ofList t) := by
  simp only [nonBlank, trim, String.toList_ofList, same]

theorem entries_of_not_mem (free : '\n' ∉ line) :
    entries line = (nonBlank (String.ofList line)).toList := by
  rw [entries, ControlFile.lineList_of_not_mem free]
  split
  · rename_i empty
    rw [List.isEmpty_iff.mp empty]
    rfl
  · cases given : nonBlank (String.ofList line) <;> simp [given]

theorem entries_append (free : '\n' ∉ line) :
    entries (line ++ '\n' :: rest) =
      (nonBlank (String.ofList (line ++ ['\n']))).toList ++ entries rest := by
  have same : nonBlank (String.ofList (dropReturn line)) =
      nonBlank (String.ofList (line ++ ['\n'])) :=
    nonBlank_congr (by rw [strip_dropReturn, strip_concat (by decide)])
  rw [entries, ControlFile.lineList_append free, List.filterMap_cons, same]
  cases nonBlank (String.ofList (line ++ ['\n'])) <;> rfl

end Text

namespace RecordStream

open Text

variable {files : FileTree} {type : RecordType} {line rest : List Char}

structure Heads (line rest : List Char) : Prop where
  written : line ≠ []
  lineOf_eq : lineOf (encode (line ++ rest)) = encode line
  entries_eq : entries (line ++ rest) = (nonBlank (String.ofList line)).toList ++ entries rest

theorem ne_lineFeed (free : '\n' ∉ line) : ∀ b ∈ encode line, (decide (b ≠ lineFeed)) = true := by
  intro b member
  have other : b ≠ lineFeed := by
    rintro rfl
    exact not_mem_encode free member
  simpa using other

theorem heads_nil (written : line ≠ []) (free : '\n' ∉ line) : Heads line [] := by
  refine ⟨written, ?_, ?_⟩
  · have all := ne_lineFeed free
    rw [List.append_nil, lineOf, List.takeWhile_eq_self_iff.mpr all,
      List.dropWhile_eq_nil_iff.mpr all, List.take_nil, List.append_nil]
  · rw [List.append_nil, entries_of_not_mem free]
    exact (List.append_nil _).symm

theorem heads_feed (free : '\n' ∉ line) (rest : List Char) : Heads (line ++ ['\n']) rest := by
  have split : line ++ ['\n'] ++ rest = line ++ '\n' :: rest := List.append_assoc ..
  refine ⟨by simp, ?_, by rw [split, entries_append free]⟩
  have all := ne_lineFeed free
  have feed : encode ('\n' :: rest) = lineFeed :: encode rest := rfl
  rw [split, lineOf, encode_append, encode_append, List.takeWhile_append_of_pos all,
    List.dropWhile_append_of_pos all, feed]
  simp only [List.takeWhile_cons, List.dropWhile_cons, ne_eq, not_true_eq_false, decide_false,
    Bool.false_eq_true, if_false, List.append_nil, List.take_succ_cons, List.take_zero]
  rfl

/-- A text is empty or has a line before the rest. -/
theorem heads_induction {P : List Char → Prop} (none : P [])
    (line : ∀ line rest, Heads line rest → P rest → P (line ++ rest)) (s : List Char) : P s := by
  induction s using ControlFile.line_induction with
  | none => exact none
  | last s some free =>
    rw [← List.append_nil s]
    exact line s [] (heads_nil some free) none
  | line s rest free ih =>
    have split : s ++ '\n' :: rest = s ++ ['\n'] ++ rest := by simp
    rw [split]
    exact line _ rest (heads_feed free rest) ih

theorem Heads.encode_ne_nil (heads : Heads line rest) : encode (line ++ rest) ≠ [] := by
  rw [encode_append]
  intro empty
  have least := length_le_encode line
  rw [(List.append_eq_nil_iff.mp empty).1] at least
  exact heads.written (by simpa using least)

theorem Heads.ofBytes?_lineOf (heads : Heads line rest) :
    ofBytes? (lineOf (encode (line ++ rest))) = some (String.ofList line) := by
  rw [heads.lineOf_eq, ofBytes?_encode]

theorem Heads.drop_lineOf (heads : Heads line rest) :
    (encode (line ++ rest)).drop (lineOf (encode (line ++ rest))).length = encode rest := by
  rw [heads.lineOf_eq, encode_append, List.drop_left]

theorem length_entries_le (s : List Char) : (entries s).length ≤ (encode s).length := by
  induction s using heads_induction with
  | none => rfl
  | line line rest heads ih =>
    have more := length_le_encode line
    have some := List.length_pos_iff.mpr heads.written
    rw [heads.entries_eq, encode_append, List.length_append, List.length_append]
    have one : (nonBlank (String.ofList line)).toList.length ≤ 1 := by
      cases nonBlank (String.ofList line) <;> simp
    omega

theorem Heads.skim (heads : Heads line rest) (taken : Nat) :
    skim (encode (line ++ rest)) taken =
      match nonBlank (String.ofList line) with
      | none => RecordStream.skim (encode rest) (taken + (encode line).length)
      | some entry => (.line entry, taken + (encode line).length) := by
  rw [RecordType.Records.skim_line taken heads.encode_ne_nil heads.ofBytes?_lineOf,
    heads.drop_lineOf, heads.lineOf_eq, nonBlank]
  by_cases blank : (trim (String.ofList line)).isEmpty = true <;> simp [blank]

/-- What is found in a text is the first line with something in it, and what is behind it are the
others. -/
theorem skim_encode (s : List Char) (taken : Nat) :
    ∃ front back, s = front ++ back ∧ entries back = (entries s).tail ∧
      skim (encode s) taken =
        ((entries s).head?.elim .nothing .line, taken + (encode front).length) := by
  induction s using heads_induction generalizing taken with
  | none => exact ⟨[], [], rfl, rfl, RecordType.Records.skim_nil taken⟩
  | line line rest heads ih =>
    rw [heads.skim, heads.entries_eq]
    cases nonBlank (String.ofList line) with
    | none =>
      obtain ⟨front, back, rfl, behind, found⟩ := ih (taken + (encode line).length)
      refine ⟨line ++ front, back, (List.append_assoc ..).symm, behind, ?_⟩
      rw [found, encode_append, List.length_append, Nat.add_assoc]
      rfl
    | some entry => exact ⟨line, rest, rfl, rfl, rfl⟩

/-- The values of lines that all decode are the records of the text. -/
theorem records_encode {s : List Char} {values : List Value}
    (decoded : (entries s).mapM type.decode? = some values) : type.Records (encode s) values := by
  induction s using heads_induction generalizing values with
  | none =>
    obtain rfl : [] = values := Option.some.inj decoded
    exact .none
  | line line rest heads ih =>
    rw [heads.entries_eq] at decoded
    by_cases blank : trim (String.ofList line) = ""
    · rw [nonBlank, if_pos (by simpa using blank)] at decoded
      refine .blank heads.encode_ne_nil heads.ofBytes?_lineOf blank ?_
      rw [heads.drop_lineOf]
      exact ih decoded
    · rw [nonBlank, if_neg (by simpa using blank)] at decoded
      obtain ⟨value, here, later⟩ := Option.bind_eq_some_iff.mp (List.mapM_cons.symm.trans decoded)
      obtain ⟨others, there, same⟩ := Option.bind_eq_some_iff.mp later
      cases same
      refine .record heads.encode_ne_nil heads.ofBytes?_lineOf blank here ?_
      rw [heads.drop_lineOf]
      exact ih there

/-- A stream and a reader over a file that stand before the same lines. -/
structure Tracks (path : String) (type : RecordType) (content : List Char) (s : RecordStream)
    (r : LineReader) : Prop where
  stream : s.path = path ∧ s.type = type
  reader : r.path = path ∧ r.type = type ∧ r.lines = entries content
  count : r.count = s.position
  closed : r.closed = s.closed
  /-- A closed stream has forgotten where it stood. -/
  behind : s.closed = false → ∃ front back, content = front ++ back ∧
    s.taken.getD 0 = (encode front).length ∧ entries back = r.lines.drop r.cursor

variable {path : String} {content : List Char} {s : RecordStream} {r : LineReader}

theorem tracks_fresh (path : String) (type : RecordType) (content : List Char) :
    Tracks path type content (fresh path type) (.fresh path type (entries content)) :=
  ⟨⟨rfl, rfl⟩, ⟨rfl, rfl, rfl⟩, rfl, rfl, fun _ => ⟨[], content, rfl, rfl, rfl⟩⟩

/-- One record is read as the reader reads one line. -/
theorem Tracks.next (h : Tracks path type content s r)
    (read : files.read path = .ok (encode content)) :
    (s.next files).1 = r.next.1 ∧ Tracks path type content (s.next files).2 r.next.2 := by
  obtain ⟨⟨rfl, rfl⟩, ⟨path, type, lines⟩, count, same, behind⟩ := h
  unfold RecordStream.next LineReader.next
  by_cases closed : s.closed = true
  · rw [same, if_pos closed, if_pos closed, path]
    exact ⟨rfl, ⟨rfl, rfl⟩, ⟨path, type, lines⟩, count, same, behind⟩
  · obtain ⟨front, back, rfl, stands, left⟩ := behind (by simpa using closed)
    obtain ⟨skipped, back, rfl, further, found⟩ := skim_encode back (s.taken.getD 0)
    have start : (encode (front ++ (skipped ++ back))).drop (s.taken.getD 0) =
        encode (skipped ++ back) := by
      rw [encode_append, stands, List.drop_left]
    have there : r.lines[r.cursor]? = (entries (skipped ++ back)).head? := by
      rw [left, List.head?_drop]
    -- Both are behind the line that is found, or at the end.
    have stands' : ∃ front' back', front ++ (skipped ++ back) = front' ++ back' ∧
        s.taken.getD 0 + (encode skipped).length = (encode front').length ∧
        entries back' = (r.lines.drop r.cursor).tail := by
      refine ⟨front ++ skipped, back, (List.append_assoc ..).symm, ?_, by rw [further, left]⟩
      rw [encode_append, List.length_append, stands]
    rw [if_neg closed, if_neg (same ▸ closed)]
    simp only [read, start, found, there]
    cases head : (entries (skipped ++ back)).head? with
    | none =>
      have nothing : r.lines.drop r.cursor = [] := by
        rw [← left]
        exact List.head?_eq_none_iff.mp head
      rw [nothing, List.tail_nil, ← nothing] at stands'
      refine ⟨?_, ⟨rfl, rfl⟩, ⟨path, type, lines⟩, count, same, fun _ => stands'⟩
      rw [path, count]
      rfl
    | some line =>
      rw [List.tail_drop] at stands'
      simp only [Option.elim_some, RecordType.decode, type]
      cases s.type.decode? line with
      | none => exact ⟨rfl, ⟨rfl, rfl⟩, ⟨path, rfl, lines⟩, count, same, fun _ => stands'⟩
      | some v =>
        have count := congrArg (· + 1) count
        exact ⟨rfl, ⟨rfl, rfl⟩, ⟨path, rfl, lines⟩, count, same, fun _ => stands'⟩

section Reading

variable {limit : Option Nat} {started : Bool} {s' : RecordStream} {v : Value} {f : Failure}

theorem takeMore_ok (room : limit ≠ some 0) (next : s.next files = (.ok v, s')) (bound : Nat) :
    s.takeMore files limit started (bound + 1) =
      let p := s'.takeMore files (limit.map (· - 1)) true bound
      (p.1.map (v :: ·), p.2) := by
  rw [RecordStream.takeMore, if_neg room, next]
  simp only
  obtain ⟨result, s''⟩ := s'.takeMore files (limit.map (· - 1)) true bound
  cases result <;> rfl

theorem takeMore_error (room : limit ≠ some 0) (next : s.next files = (.error f, s'))
    (bound : Nat) :
    s.takeMore files limit started (bound + 1) =
      (if f.kind = .noSuchElement ∧ (started = true ∨ limit = none) then .ok [] else .error f,
        s') := by
  rw [RecordStream.takeMore, if_neg room, next]
  simp only [Option.isNone_iff_eq_none]
  split <;> rfl

end Reading

/-- Reading on is a batch of the reader. `bound` is more than the lines that it has before it. -/
theorem Tracks.takeMore {limit : Option Nat} {started : Bool} {bound : Nat} {got : List Value}
    (h : Tracks path type content s r) (read : files.read path = .ok (encode content))
    (enough : r.lines.length - r.cursor < bound) (begun : started = true ↔ got ≠ []) :
    let p := s.takeMore files (limit.map (· - got.length)) started bound
    ∃ r', r.Takes limit got (p.1.map (got ++ ·)) r' ∧ Tracks path type content p.2 r' := by
  induction bound generalizing got started s r with
  | zero => omega
  | succ bound ih =>
    -- The stream counts its limit down, the reader counts its records up: their sum stays.
    by_cases full : limit.map (· - got.length) = some 0
    · obtain ⟨n, limited, reached⟩ := Option.map_eq_some_iff.mp full
      rw [RecordStream.takeMore, if_pos full]
      refine ⟨r, ?_, h⟩
      simpa [Except.map] using LineReader.Takes.full limited (Nat.sub_eq_zero_iff_le.mp reached)
    have room : ∀ n, limit = some n → got.length < n := by
      rintro n rfl
      have some : n - got.length ≠ 0 := by simpa using full
      omega
    obtain ⟨same, h'⟩ := h.next read
    cases next : s.next files with
    | mk result s' =>
      rw [next] at same h'
      have next' : r.next = (result, r.next.2) := Prod.ext same.symm rfl
      cases result with
      | ok v =>
        obtain ⟨inside, moved⟩ := LineReader.next_eq_ok next'
        have fewer : r.next.2.lines.length - r.next.2.cursor < bound := by
          simp only [moved]
          omega
        have less : limit.map (· - (got ++ [v]).length) =
            (limit.map (· - got.length)).map (· - 1) := by
          cases limit <;> simp [Nat.sub_sub]
        have further := @ih s' r.next.2 true (got ++ [v]) h' fewer (by simp)
        rw [less] at further
        obtain ⟨r', takes, tracks⟩ := further
        rw [takeMore_ok full next]
        refine ⟨r', .record room next' ?_, tracks⟩
        have joined : ∀ result : Except Failure (List Value),
            (result.map (v :: ·)).map (got ++ ·) = result.map (got ++ [v] ++ ·) := by
          rintro (_ | _) <;> simp [Except.map]
        rw [joined]
        exact takes
      | error f =>
        rw [takeMore_error full next]
        refine ⟨r.next.2, ?_, h'⟩
        split
        · rename_i goesOn
          have fine : got ≠ [] ∨ limit = none := by simpa [begun] using goesOn.2
          simpa [Except.map] using .ended room next' goesOn.1 fine
        · rename_i stops
          refine .failed room next' fun atEnd => ?_
          simpa [begun, atEnd] using stops

/-- A call is answered as the reader answers it. -/
theorem Tracks.call (h : Tracks path type content s r)
    (read : files.read path = .ok (encode content)) (c : Call) :
    ∃ r', r.Answers c (s.call files c).1 r' ∧ Tracks path type content (s.call files c).2 r' := by
  cases c with
  | next =>
    obtain ⟨same, h'⟩ := h.next read
    exact ⟨r.next.2, .next (Prod.ext same.symm rfl), h'⟩
  | take limit =>
    have bound : r.lines.length - r.cursor < (encode content).length + 1 := by
      have := length_entries_le content
      rw [h.reader.2.2]
      omega
    have none : false = true ↔ ([] : List Value) ≠ [] := by simp
    have taken : s.take files limit =
        s.takeMore files (limit.map (· - 0)) false ((encode content).length + 1) := by
      rw [RecordStream.take, h.stream.1, read]
      simp [Except.toOption]
    have same : ∀ result : Except Failure (List Value), result.map ([] ++ ·) = result := by
      rintro (_ | _) <;> rfl
    obtain ⟨r', takes, h'⟩ := @Tracks.takeMore _ _ _ _ _ _ limit _ _ _ h read bound none
    rw [List.length_nil, ← taken] at takes h'
    rw [same] at takes
    exact ⟨r', .take takes, h'⟩
  | reset =>
    refine ⟨_, .reset, ?_⟩
    obtain ⟨⟨rfl, rfl⟩, ⟨path, type, lines⟩, -⟩ := h
    rw [path, type, lines]
    exact tracks_fresh s.path s.type content
  | close =>
    refine ⟨_, .close, h.stream, h.reader, h.count, rfl, ?_⟩
    rintro ⟨⟩

/-- A stream replies what the reader replies. -/
theorem Tracks.converses (h : Tracks path type content s r)
    (read : files.read path = .ok (encode content)) (calls : List Call) :
    r.Converses calls (s.replies files calls) := by
  induction calls generalizing s r with
  | nil => exact .nil
  | cons c calls ih =>
    obtain ⟨r', answers, h'⟩ := h.call read c
    rw [replies]
    simp only
    rw [← h'.count, ← h'.closed]
    exact .cons answers (ih h')

/-- A stream that is reset answers as a fresh one does. -/
theorem Tracks.replies_reset (h : Tracks path type content s r)
    (read : files.read path = .ok (encode content)) (before after : List Call) :
    s.replies files (before ++ .reset :: after) =
      s.replies files before ++ ⟨.done, 0, false⟩ :: (fresh path type).replies files after := by
  induction before generalizing s r with
  | nil =>
    obtain ⟨⟨rfl, rfl⟩, -⟩ := h
    rfl
  | cons c before ih =>
    obtain ⟨r', -, h'⟩ := h.call read c
    rw [List.cons_append, replies, replies]
    simp only
    rw [ih h', List.cons_append]

/-- A batch has the first of the values that are left. Where there are none, it is empty or
fails. -/
theorem Holds.batch {values : List Value} (h : s.Holds files values) (n : Nat) :
    ∃ result s', s.take files (some n) = (result, s') ∧
      (Answer.batch result).values = values.take n ∧ (n ≤ values.length → ∃ vs, result = .ok vs) ∧
      s'.Holds files (values.drop n) := by
  cases n with
  | zero => exact ⟨.ok [], s, rfl, rfl, fun _ => ⟨[], rfl⟩, h⟩
  | succ n =>
    cases values with
    | nil =>
      obtain ⟨s', f, taken, -, -, left⟩ := h.take_none (Nat.succ_pos n)
      exact ⟨_, s', taken, rfl, by simp, left⟩
    | cons v values =>
      obtain ⟨s', taken, -, left⟩ := h.take (n := n + 1) (List.cons_ne_nil v values)
      exact ⟨_, s', taken, rfl, fun _ => ⟨_, rfl⟩, left⟩

/-- Batches, one after the other, have the first of the values that are left. -/
theorem Holds.batches {values : List Value} (h : s.Holds files values) (counts : List Nat) :
    let replies := s.replies files (counts.map fun n => .take (some n))
    (replies.flatMap fun reply => reply.answer.values) = values.take counts.sum ∧
      (counts.sum ≤ values.length →
        ∀ reply ∈ replies, ∃ vs, reply.answer = .batch (.ok vs)) := by
  induction counts generalizing s values with
  | nil => exact ⟨rfl, by simp [replies]⟩
  | cons n counts ih =>
    obtain ⟨result, s', taken, whole, enough, left⟩ := h.batch n
    obtain ⟨others, all⟩ := ih left
    have first : s.call files (.take (some n)) = (.batch result, s') := by
      rw [RecordStream.call, taken]
      rfl
    rw [List.map_cons, replies, first]
    refine ⟨?_, fun fits => ?_⟩
    · rw [List.flatMap_cons, others, whole, List.sum_cons, List.take_add]
    · rw [List.sum_cons] at fits
      rw [List.length_drop] at all
      obtain ⟨vs, rfl⟩ := enough (by omega)
      exact List.forall_mem_cons.mpr ⟨⟨vs, rfl⟩, all (by omega)⟩

/-- A stream over a file, whatever it is asked for. The answers are those of a reader of the lines
in which there is something, each of them trimmed, and of no other; after a reset they are those of
a stream that has just been opened. When all lines decode, batches of any sizes give the records
from the first one on, as many as they are to have together, or all of them. -/
theorem stream_reads_lines {files : FileTree} {path content : String}
    (holds : files.find path = .ok (.file (Text.toBytes content))) (type : RecordType) :
    let lines := (Text.lines content).filterMap Text.nonBlank
    let stream := fresh path type
    opened files path type = .ok stream ∧
      (∀ calls replies, (LineReader.fresh path type lines).Converses calls replies ↔
        replies = stream.replies files calls) ∧
      (∀ before after, stream.replies files (before ++ .reset :: after) =
        stream.replies files before ++ ⟨.done, 0, false⟩ :: stream.replies files after) ∧
      ∀ values, lines.mapM type.decode? = some values → ∀ counts : List Nat,
        let replies := stream.replies files (counts.map fun n => .take (some n))
        (replies.flatMap fun reply => reply.answer.values) = values.take counts.sum ∧
          (counts.sum ≤ values.length →
            ∀ reply ∈ replies, ∃ vs, reply.answer = .batch (.ok vs)) := by
  intro lines stream
  have read : files.read path = .ok (encode content.toList) := by
    rw [FileTree.read, holds]
    rfl
  have same : entries content.toList = lines := entries_eq content
  have tracks : Tracks path type content.toList stream (.fresh path type lines) :=
    same ▸ tracks_fresh path type content.toList
  refine ⟨?_, fun calls replies => ⟨fun converses => ?_, ?_⟩, tracks.replies_reset read,
    fun values decoded counts => ?_⟩
  · rw [opened, FileTree.isFile, holds]
    rfl
  · exact converses.unique (tracks.converses read calls)
  · rintro rfl
    exact tracks.converses read calls
  · have records : type.Records (encode content.toList) values :=
      records_encode (same.symm ▸ decoded)
    have start : stream.Holds files values := by
      refine ⟨rfl, encode content.toList, read, ?_⟩
      have none : stream.taken.getD 0 = 0 := rfl
      rw [none, List.drop_zero]
      exact records
    exact start.batches counts

def ragged : FileTree := (FileTree.bare []).addNode ["f"] (.file (Text.toBytes "1\n \n x\r\n2"))

theorem stream_reads_lines_ragged :
    ragged.find "f" = .ok (.file (Text.toBytes "1\n \n x\r\n2")) ∧
      (fresh "f" .int).replies ragged
          [.take none, .take none, .next, .close, .take (some 1), .reset, .take (some 1)] =
        [⟨.batch (.error ⟨.illegalArgument, "not an integer: x"⟩), 1, false⟩,
          ⟨.batch (.ok [.int 2]), 2, false⟩,
          ⟨.record (.error ⟨.noSuchElement, "end of stream 'f' after 2 records"⟩), 2, false⟩,
          ⟨.done, 2, true⟩,
          ⟨.batch (.error ⟨.illegalState, "stream 'f' is closed"⟩), 2, true⟩,
          ⟨.done, 0, false⟩,
          ⟨.batch (.ok [.int 1]), 1, false⟩] ∧
      (((fresh "f" .text).replies ragged
          ([2, 0, 2].map fun n => .take (some n))).flatMap fun reply => reply.answer.values) =
        [.text "1", .text "x", .text "2"] := by
  have holds : ragged.find "f" = .ok (.file (Text.toBytes "1\n \n x\r\n2")) := by decide +kernel
  have lines : (Text.lines "1\n \n x\r\n2").filterMap Text.nonBlank = ["1", "x", "2"] := by
    decide
  obtain ⟨-, answers, -, -⟩ := stream_reads_lines holds .int
  obtain ⟨-, -, -, batches⟩ := stream_reads_lines holds .text
  rw [lines] at answers batches
  let reader cursor count closed : LineReader :=
    ⟨"f", .int, ["1", "x", "2"], cursor, count, closed⟩
  have fails : (reader 0 0 false).Answers (.take none)
      (.batch (.error ⟨.illegalArgument, "not an integer: x"⟩)) (reader 2 1 false) :=
    .take (.record (by simp) rfl (.failed (by simp) rfl (by simp)))
  have goesOn : (reader 2 1 false).Answers (.take none) (.batch (.ok [.int 2]))
      (reader 3 2 false) :=
    .take (.record (by simp) rfl (.ended (by simp) rfl rfl (.inr rfl)))
  have count : "end of stream '" ++ "f" ++ "' after " ++ toString 2 ++ " records" =
      "end of stream 'f' after 2 records" := by decide +kernel
  have ended : (reader 3 2 false).Answers .next
      (.record (.error ⟨.noSuchElement, "end of stream 'f' after 2 records"⟩))
      (reader 3 2 false) := by
    rw [← count]
    exact .next rfl
  have closes : (reader 3 2 false).Answers .close .done (reader 3 2 true) := .close
  have refuses : (reader 3 2 true).Answers (.take (some 1))
      (.batch (.error ⟨.illegalState, "stream 'f' is closed"⟩)) (reader 3 2 true) :=
    .take (.failed (by simp) rfl (by simp))
  have resets : (reader 3 2 true).Answers .reset .done (reader 0 0 false) := .reset
  have again : (reader 0 0 false).Answers (.take (some 1)) (.batch (.ok [.int 1]))
      (reader 1 1 false) :=
    .take (.record (by simp) rfl (.full rfl (by decide)))
  refine ⟨holds, ((answers _ _).mp ?_).symm, ?_⟩
  · exact .cons fails <| .cons goesOn <| .cons ended <| .cons closes <| .cons refuses <|
      .cons resets <| .cons again .nil
  · exact (batches [.text "1", .text "x", .text "2"] rfl [2, 0, 2]).1

end RecordStream

end Runbook
