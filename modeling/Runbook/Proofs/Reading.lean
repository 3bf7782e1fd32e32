import Runbook.Object
/-! What reading a record stream takes. A stream has the records of the lines behind what its reader
has taken; a batch is the first of them, and the end shows only when there is none. -/
namespace Runbook

def Value.shown (v : Value) : String := v.displayWith fun _ => ""

/-- The values that the lines of a file stand for. Every line is text; those that are not blank
decode. -/
inductive RecordType.Records (type : RecordType) : Bytes → List Value → Prop
  | none : Records type [] []
  | blank {bytes : Bytes} {text : String} {values : List Value} (more : bytes ≠ [])
      (line : Text.ofBytes? (RecordStream.lineOf bytes) = some text) (blank : Text.trim text = "")
      (rest : Records type (bytes.drop (RecordStream.lineOf bytes).length) values) :
      Records type bytes values
  | record {bytes : Bytes} {text : String} {value : Value} {values : List Value}
      (more : bytes ≠ []) (line : Text.ofBytes? (RecordStream.lineOf bytes) = some text)
      (written : Text.trim text ≠ "") (decodes : type.decode? (Text.trim text) = some value)
      (rest : Records type (bytes.drop (RecordStream.lineOf bytes).length) values) :
      Records type bytes (value :: values)

/-- A stream that is open has values left in its file. -/
structure RecordStream.Holds (files : FileTree) (s : RecordStream) (values : List Value) : Prop where
  running : s.closed = false
  readable : ∃ bytes, files.read s.path = .ok bytes ∧
    s.type.Records (bytes.drop (s.taken.getD 0)) values

def RecordStream.Advanced (s : RecordStream) (count : Nat) (s' : RecordStream) : Prop :=
  ∃ taken, s' = { s with position := s.position + count, taken }

namespace RecordType.Records

variable {type : RecordType} {bytes : Bytes} {value : Value} {values : List Value}

theorem length_lineOf (more : bytes ≠ []) : 0 < (RecordStream.lineOf bytes).length := by
  obtain ⟨b, rest, rfl⟩ := List.exists_cons_of_ne_nil more
  exact RecordStream.length_lineOf

theorem skim_line (taken : Nat) {text : String} (more : bytes ≠ [])
    (line : Text.ofBytes? (RecordStream.lineOf bytes) = some text) :
    RecordStream.skim bytes taken =
      if (Text.trim text).isEmpty then
        RecordStream.skim (bytes.drop (RecordStream.lineOf bytes).length)
          (taken + (RecordStream.lineOf bytes).length)
      else (.line (Text.trim text), taken + (RecordStream.lineOf bytes).length) := by
  obtain ⟨b, rest, rfl⟩ := List.exists_cons_of_ne_nil more
  rw [RecordStream.skim, line]

theorem skim_nil (taken : Nat) : RecordStream.skim [] taken = (.nothing, taken) := by rw [RecordStream.skim]

/-- At the end there is nothing to be found. -/
theorem skim_none (taken : Nat) (h : type.Records bytes []) :
    ∃ n, RecordStream.skim bytes taken = (.nothing, taken + n) ∧ type.Records (bytes.drop n) [] := by
  generalize none : ([] : List Value) = values at h
  induction h generalizing taken with
  | none => exact ⟨0, skim_nil taken, .none⟩
  | @blank bytes text values more line blank rest ih =>
    obtain ⟨n, found, left⟩ := ih (taken + (RecordStream.lineOf bytes).length) none
    subst none
    refine ⟨(RecordStream.lineOf bytes).length + n, ?_, by rwa [← List.drop_drop]⟩
    rw [skim_line taken more line, blank, ← Nat.add_assoc, ← found]
    rfl
  | record => cases none

/-- The next record is the first one that is left. -/
theorem skim_cons (taken : Nat) (h : type.Records bytes (value :: values)) :
    ∃ text n, RecordStream.skim bytes taken = (.line text, taken + n) ∧
      type.decode? text = some value ∧ type.Records (bytes.drop n) values := by
  generalize first : value :: values = all at h
  induction h generalizing taken with
  | none => cases first
  | @blank bytes text _ more line blank rest ih =>
    obtain ⟨next, n, found, decodes, left⟩ := ih (taken + (RecordStream.lineOf bytes).length) first
    refine ⟨next, (RecordStream.lineOf bytes).length + n, ?_, decodes, by rwa [← List.drop_drop]⟩
    rw [skim_line taken more line, blank, ← Nat.add_assoc, ← found]
    rfl
  | @record bytes text _ _ more line written decodes rest _ =>
    cases first
    refine ⟨Text.trim text, _, ?_, decodes, rest⟩
    rw [skim_line taken more line, if_neg (by simpa using written)]

/-- Every record takes a byte at least. -/
theorem length_le (h : type.Records bytes values) : values.length ≤ bytes.length := by
  induction h with
  | none => simp
  | blank _ _ _ _ ih => exact Nat.le_trans ih (by simp)
  | @record bytes _ _ _ more _ _ _ _ ih =>
    have := length_lineOf more
    have : 0 < bytes.length := List.length_pos_iff.mpr more
    simp only [List.length_drop, List.length_cons] at ih ⊢
    omega

end RecordType.Records

namespace RecordStream

variable {files : FileTree} {s s' s'' : RecordStream} {value : Value} {values : List Value}

theorem Advanced.trans {m n : Nat} (h : s.Advanced m s') (h' : s'.Advanced n s'') :
    s.Advanced (m + n) s'' := by
  obtain ⟨_, rfl⟩ := h
  obtain ⟨taken, rfl⟩ := h'
  exact ⟨taken, by simp [Nat.add_assoc]⟩

theorem Holds.next (h : s.Holds files (value :: values)) :
    ∃ s', s.next files = (.ok value, s') ∧ s.Advanced 1 s' ∧ s'.Holds files values := by
  obtain ⟨bytes, read, records⟩ := h.readable
  obtain ⟨text, n, found, decodes, left⟩ := records.skim_cons (s.taken.getD 0)
  refine ⟨{ s with taken := some (s.taken.getD 0 + n), position := s.position + 1 }, ?_, ⟨_, rfl⟩,
    h.running, bytes, read, by rwa [Option.getD_some, ← List.drop_drop]⟩
  simp only [RecordStream.next, h.running, read, found, RecordType.decode, decodes]
  rfl

theorem Holds.next_none (h : s.Holds files []) :
    ∃ s' f, s.next files = (.error f, s') ∧ f.kind = .noSuchElement ∧ s.Advanced 0 s' ∧
      s'.Holds files [] := by
  obtain ⟨bytes, read, records⟩ := h.readable
  obtain ⟨n, found, left⟩ := records.skim_none (s.taken.getD 0)
  refine ⟨{ s with taken := some (s.taken.getD 0 + n) },
    ⟨.noSuchElement, "end of stream '" ++ s.path ++ "' after " ++ toString s.position ++ " records"⟩,
    ?_, rfl, ⟨_, rfl⟩, h.running, bytes, read, by rwa [Option.getD_some, ← List.drop_drop]⟩
  simp only [RecordStream.next, h.running, read, found]
  rfl

/-- Reading on takes as many records as there are, up to the limit. -/
theorem Holds.takeMore {n bound : Nat} {started : Bool} (h : s.Holds files values)
    (enough : values.length < bound) (some_ : started = true ∨ n = 0 ∨ values ≠ []) :
    ∃ s', s.takeMore files (some n) started bound = (.ok (values.take n), s') ∧
      s.Advanced (values.take n).length s' ∧ s'.Holds files (values.drop n) := by
  induction bound generalizing n started s values with
  | zero => omega
  | succ bound ih =>
    cases n with
    | zero => exact ⟨s, by simp [RecordStream.takeMore], ⟨s.taken, by simp⟩, h⟩
    | succ n =>
      cases values with
      | nil =>
        obtain rfl : started = true := by simpa using some_
        obtain ⟨s', f, next, kind, advanced, left⟩ := h.next_none
        exact ⟨s', by simp [RecordStream.takeMore, next, kind], advanced, left⟩
      | cons value values =>
        obtain ⟨s', next, advanced, left⟩ := h.next
        obtain ⟨s'', more, further, last⟩ := @ih s' values n true left (by simpa using enough)
          (.inl rfl)
        refine ⟨s'', by simp [RecordStream.takeMore, next, more], ?_, last⟩
        simpa [Nat.add_comm] using advanced.trans further

/-- A batch is the first records that are left. -/
theorem Holds.take {n : Nat} (h : s.Holds files values) (more : values ≠ []) :
    ∃ s', s.take files (some n) = (.ok (values.take n), s') ∧
      s.Advanced (values.take n).length s' ∧ s'.Holds files (values.drop n) := by
  obtain ⟨bytes, read, records⟩ := h.readable
  refine h.takeMore ?_ (.inr (.inr more))
  have := records.length_le
  simp only [read, Except.toOption, Option.map_some, Option.getD_some, List.length_drop] at this ⊢
  omega

/-- Where no record is left, a batch is not empty but fails. -/
theorem Holds.take_none {n : Nat} (h : s.Holds files []) (positive : 0 < n) :
    ∃ s' f, s.take files (some n) = (.error f, s') ∧ f.kind = .noSuchElement ∧ s.Advanced 0 s' ∧
      s'.Holds files [] := by
  obtain ⟨s', f, next, kind, advanced, left⟩ := h.next_none
  refine ⟨s', f, ?_, kind, advanced, left⟩
  simp [RecordStream.take, RecordStream.takeMore, next, Nat.ne_of_gt positive]

end RecordStream

/-- A record is shown without a look at any object. -/
theorem Value.displayItems_floats (objectText : Nat → String) (xs : List Binary64) :
    displayItems objectText (xs.map .float) = displayItems (fun _ => "") (xs.map .float) := by
  induction xs with
  | nil => rfl
  | cons x xs ih =>
    cases xs with
    | nil => rfl
    | cons y ys => simpa [displayItems, displayWith] using ih

theorem RecordType.display_decode {type : RecordType} {line : String} {v : Value}
    (h : type.decode? line = some v) (objects : Objects) : objects.display v = v.shown := by
  unfold Objects.display Value.shown
  cases type with
  | text =>
    obtain rfl := Option.some.inj h
    rfl
  | int | float =>
    obtain ⟨_, _, rfl⟩ := Option.map_eq_some_iff.mp h
    rfl
  | vector =>
    obtain ⟨xs, _, rfl⟩ := Option.map_eq_some_iff.mp h
    simp only [Value.displayWith, Value.displayItems_floats]

theorem RecordType.Records.display {type : RecordType} {bytes : Bytes} {values : List Value}
    (h : type.Records bytes values) (objects : Objects) :
    ∀ v ∈ values, objects.display v = v.shown := by
  induction h with
  | none => simp
  | blank _ _ _ _ ih => exact ih
  | record _ _ _ decodes _ ih =>
    simpa using ⟨RecordType.display_decode decodes objects, ih⟩

end Runbook
