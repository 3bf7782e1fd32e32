import Mathlib.Data.List.Forall2
import Runbook.Bench.Basic
import Runbook.Proofs.Reading
/-! What becomes of the records of a stream that operations insert. Every insertion moves the
stream past a batch of records; one that succeeds stores its batch, and one that fails stores none
of it. -/
namespace Runbook

namespace RecordStream

inductive Reads (files : FileTree) : RecordStream → List Value → RecordStream → Prop
  | nothing {s : RecordStream} : Reads files s [] s
  | record {s s' s'' : RecordStream} {v : Value} {values : List Value}
      (next : s.next files = (.ok v, s')) (rest : Reads files s' values s'') :
      Reads files s (v :: values) s''
  | failure {s s' s'' : RecordStream} {f : Failure} {values : List Value}
      (next : s.next files = (.error f, s')) (rest : Reads files s' values s'') :
      Reads files s values s''

variable {files : FileTree} {s s' s'' : RecordStream} {v : Value} {values more : List Value}
  {f : Failure}

theorem next_eq_ok (h : s.next files = (.ok v, s')) :
    s'.position = s.position + 1 ∧ ∃ text, s.type.decode? text = some v := by
  unfold next at h
  split at h
  · cases (Prod.mk.inj h).1
  split at h
  · cases (Prod.mk.inj h).1
  simp only at h
  split at h
  · cases (Prod.mk.inj h).1
  · cases (Prod.mk.inj h).1
  split at h
  · rename_i text _ _ value decoded
    obtain ⟨same, rfl⟩ := Prod.mk.inj h
    cases same
    refine ⟨rfl, text, ?_⟩
    unfold RecordType.decode at decoded
    split at decoded
    · cases decoded
      assumption
    · cases decoded
  · cases (Prod.mk.inj h).1

theorem position_next_error (h : s.next files = (.error f, s')) : s'.position = s.position := by
  unfold next at h
  split at h
  · exact (Prod.mk.inj h).2 ▸ rfl
  split at h
  · exact (Prod.mk.inj h).2 ▸ rfl
  simp only at h
  split at h
  · exact (Prod.mk.inj h).2 ▸ rfl
  · exact (Prod.mk.inj h).2 ▸ rfl
  split at h
  · cases (Prod.mk.inj h).1
  · exact (Prod.mk.inj h).2 ▸ rfl

namespace Reads

theorem trans (h : s.Reads files values s') (h' : s'.Reads files more s'') :
    s.Reads files (values ++ more) s'' := by
  induction h with
  | nothing => exact h'
  | record next _ ih => exact .record next (ih h')
  | failure next _ ih => exact .failure next (ih h')

/-- The position counts the records. -/
theorem position (h : s.Reads files values s') : s'.position = s.position + values.length := by
  induction h with
  | nothing => rfl
  | record next _ ih =>
    rw [ih, (next_eq_ok next).1, List.length_cons]
    omega
  | failure next _ ih => rw [ih, position_next_error next]

/-- Records are shown without a look at any object. -/
theorem display (h : s.Reads files values s') (objects : Objects) :
    values.map objects.display = values.map Value.shown := by
  induction h with
  | nothing => rfl
  | record next _ ih =>
    obtain ⟨-, text, decodes⟩ := next_eq_ok next
    rw [List.map_cons, List.map_cons, ih, RecordType.display_decode decodes]
  | failure _ _ ih => exact ih

end Reads

/-- A batch that is read has all records that the stream has moved past. Where it fails these are
lost; at the end of the stream there are none. -/
theorem reads_takeMore {limit : Option Nat} {started : Bool} {bound : Nat}
    {result : Except Failure (List Value)}
    (h : s.takeMore files limit started bound = (result, s')) :
    ∃ values, s.Reads files values s' ∧ (∀ batch, result = .ok batch → batch = values) ∧
      ∀ f, result = .error f → f.kind = .noSuchElement → started = false ∧ values = [] := by
  induction bound generalizing limit started s result with
  | zero =>
    obtain ⟨rfl, rfl⟩ := Prod.mk.inj h
    exact ⟨[], .nothing, by simp, by simp⟩
  | succ bound ih =>
    unfold takeMore at h
    split at h
    · obtain ⟨rfl, rfl⟩ := Prod.mk.inj h
      exact ⟨[], .nothing, by simp, by simp⟩
    split at h
    · rename_i v s₁ next
      split at h
      · rename_i vs s₂ later
        obtain ⟨rfl, rfl⟩ := Prod.mk.inj h
        obtain ⟨values, reads, whole, -⟩ := ih later
        exact ⟨v :: values, .record next reads, by simp [whole vs rfl], by simp⟩
      · obtain ⟨values, reads, -, atEnd⟩ := ih h
        refine ⟨v :: values, .record next reads, ?_, fun f failed kind => ?_⟩
        · rintro batch rfl
          rename_i other
          exact absurd h (other batch s')
        · exact absurd (atEnd f failed kind).1 (by simp)
    · rename_i f s₁ next
      split at h
      · obtain ⟨rfl, rfl⟩ := Prod.mk.inj h
        exact ⟨[], .failure next .nothing, by simp, by simp⟩
      · rename_i goes
        obtain ⟨rfl, rfl⟩ := Prod.mk.inj h
        refine ⟨[], .failure next .nothing, by simp, ?_⟩
        rintro _ ⟨⟩ kind
        simp only [kind, true_and, not_or] at goes
        exact ⟨by simpa using goes.1, rfl⟩

end RecordStream

namespace Bench

/-- Inserts records of a source in a storage, again and again. -/
def insertAll (b : Bench) (files : FileTree) (number : Nat) (source : Value) :
    List (Option Nat) → List (Except Failure Operation) × Bench
  | [] => ([], b)
  | count :: counts =>
    let (result, b) := b.runOn files number (.fresh (.insert source count))
    let (results, b) := b.insertAll files number source counts
    (result :: results, b)

def stored (result : Except Failure Operation) (batch : List Value) : List Value :=
  match result with
  | .ok _ => batch
  | .error _ => []

/-- A result tells how many records the batch has, or the end of the stream where it has none. -/
structure Settled (result : Except Failure Operation) (batch : List Value) : Prop where
  answer : ∀ o, result = .ok o → o.answer = [.ofCount batch.length]
  atEnd : ∀ f, result = .error f → f.kind = .noSuchElement → batch = []

variable {b : Bench} {files : FileTree} {number id : Nat} {s : RecordStream}
  {records : List String} {capacity : Option Nat}

/-- An insertion from a stream moves it past a batch, and stores the batch if it succeeds. -/
theorem runOn_insert (storage : b.storage? number = some (.memory records capacity))
    (stream : b.objects.get? id = some (.stream s)) (count : Option Nat) :
    let r := b.runOn files number (.fresh (.insert (.object id) count))
    ∃ batch s', s.Reads files batch s' ∧ Settled r.1 batch ∧
      r.2.objects.get? id = some (.stream s') ∧
      r.2.storage? number =
        some (.memory (records ++ (stored r.1 batch).map Value.shown) capacity) := by
  intro r
  have found : b.objects.stream? (.object id) = some (id, s) := by simp [Objects.stream?, stream]
  have inside : id < b.objects.cells.length := (List.getElem?_eq_some_iff.mp stream).1
  have there : number < b.storages.length := (List.getElem?_eq_some_iff.mp storage).1
  cases taken : s.take files count with
  | mk result s' =>
    obtain ⟨batch, reads, whole, atEnd⟩ := RecordStream.reads_takeMore taken
    cases result with
    | error f =>
      have failed : r = (.error f, { b with objects := b.objects.set id (.stream s') }.count
          "operations.failed") := by
        simp [r, runOn, storage, Storage.run, Storage.sourceRecords, Storage.sourceValues, found,
          taken, Operation.fresh, Except.map, Except.bind]
      rw [failed]
      refine ⟨batch, s', reads, ⟨by simp, ?_⟩, Objects.get?_set_same _ _ _ inside, ?_⟩
      · rintro _ ⟨⟩ kind
        exact (atEnd f rfl kind).2
      · simpa [stored, storage?, Bench.count] using storage
    | ok values =>
      obtain rfl := whole values rfl
      have shown := reads.display (b.objects.set id (.stream s'))
      have ran : (Storage.memory records capacity).run files b.objects
          (.insert (.object id) count) =
          ((Storage.memory records capacity).insert (values.map Value.shown),
            b.objects.set id (.stream s')) := by
        simp [Storage.run, Storage.sourceRecords, Storage.sourceValues, found, taken, Except.map,
          Except.bind, Storage.answer, shown]
      by_cases fits : Storage.fits capacity (records.length + values.length) = true
      · have done : r.1 = .ok ⟨.insert (.object id) count, [.ofCount values.length], 1⟩ ∧
            r.2.objects = b.objects.set id (.stream s') ∧ r.2.storages =
              b.storages.set number (.memory (records ++ values.map Value.shown) capacity) := by
          simp [r, runOn, storage, ran, Operation.fresh, Storage.insert, fits, Bench.count]
        rw [done.1, done.2.1, storage?, done.2.2]
        exact ⟨values, s', reads, ⟨by simp, by simp⟩, Objects.get?_set_same _ _ _ inside, by
          simp [stored, there]⟩
      · have failed : r.1 = .error ⟨.illegalState,
              "capacity " ++ toString (capacity.getD 0) ++ " exceeded"⟩ ∧
            r.2.objects = b.objects.set id (.stream s') ∧ r.2.storages = b.storages := by
          simp [r, runOn, storage, ran, Operation.fresh, Storage.insert, fits, Bench.count]
        rw [failed.1, failed.2.1, storage?, failed.2.2]
        refine ⟨values, s', reads, ⟨by simp, ?_⟩, Objects.get?_set_same _ _ _ inside, ?_⟩
        · rintro _ ⟨⟩ kind
          cases kind
        · simpa [stored, storage?] using storage

/-- Nothing is missing in what is stored unless a batch with records has failed. -/
theorem stored_eq_iff {results : List (Except Failure Operation)} {batches : List (List Value)}
    (h : List.Forall₂ Settled results batches) :
    (List.zipWith stored results batches).flatten.length ≤ batches.flatten.length ∧
      ((List.zipWith stored results batches).flatten = batches.flatten ↔
        ∀ p ∈ results.zip batches, p.1.toOption = none → p.2 = []) := by
  induction h with
  | nil => simp
  | @cons result batch results batches _ _ ih =>
    obtain ⟨fewer, same⟩ := ih
    cases result with
    | ok o =>
      simp only [List.zipWith_cons_cons, List.flatten_cons, stored, List.length_append,
        List.append_cancel_left_eq, same, List.zip_cons_cons, List.forall_mem_cons]
      exact ⟨by omega, by simp [Except.toOption]⟩
    | error f =>
      simp only [List.zipWith_cons_cons, List.flatten_cons, stored, List.nil_append,
        List.length_append, List.zip_cons_cons, List.forall_mem_cons, ← same]
      refine ⟨by omega, fun whole => ?_, ?_⟩
      · have length := congrArg List.length whole
        rw [List.length_append] at length
        obtain rfl : batch = [] := List.length_eq_zero_iff.mp (by omega)
        exact ⟨fun _ => rfl, whole⟩
      · rintro ⟨empty, rest⟩
        rw [empty rfl, rest, List.nil_append]

/-- Insertions from a stream into a storage, one after the other, with or without a capacity. Each
one moves the stream past a batch; one batch after the other, they are the records that reading
gives, and the position counts them. The storage gets the batches of those insertions that succeed,
in the order of the file, and nothing of the others: these records are lost, unless a failing batch
has none, as at the end of the stream. -/
theorem insertions_store_batches (storage : b.storage? number = some (.memory records capacity))
    (stream : b.objects.get? id = some (.stream s)) (files : FileTree)
    (counts : List (Option Nat)) :
    let r := b.insertAll files number (.object id) counts
    ∃ batches s', List.Forall₂ Settled r.1 batches ∧ s.Reads files batches.flatten s' ∧
      s'.position = s.position + batches.flatten.length ∧
      r.2.objects.get? id = some (.stream s') ∧
      r.2.storage? number = some (.memory
        (records ++ (List.zipWith stored r.1 batches).flatten.map Value.shown) capacity) ∧
      ((List.zipWith stored r.1 batches).flatten = batches.flatten ↔
        ∀ p ∈ r.1.zip batches, p.1.toOption = none → p.2 = []) := by
  have run : ∃ batches s', List.Forall₂ Settled (b.insertAll files number (.object id) counts).1
        batches ∧ s.Reads files batches.flatten s' ∧
      (b.insertAll files number (.object id) counts).2.objects.get? id = some (.stream s') ∧
      (b.insertAll files number (.object id) counts).2.storage? number = some (.memory
        (records ++ (List.zipWith stored (b.insertAll files number (.object id) counts).1
          batches).flatten.map Value.shown) capacity) := by
    induction counts generalizing b s records with
    | nil => exact ⟨[], s, .nil, .nothing, stream, by simpa [insertAll] using storage⟩
    | cons count counts ih =>
      obtain ⟨batch, s₁, reads, settled, stream₁, storage₁⟩ := runOn_insert storage stream count
      obtain ⟨batches, s', all, more, stream', storage'⟩ := ih storage₁ stream₁
      refine ⟨batch :: batches, s', .cons settled all, reads.trans more, stream', ?_⟩
      simpa [insertAll] using storage'
  obtain ⟨batches, s', all, reads, stream', storage'⟩ := run
  exact ⟨batches, s', all, reads, reads.position, stream', storage', (stored_eq_iff all).2⟩

def pair : FileTree := (FileTree.bare []).addNode ["f"] (.file (Text.toBytes "a\nb\n"))

def narrow : Bench :=
  { Bench.fresh with
    objects := ⟨[.stream (.fresh "f" .text)]⟩
    storages := [.memory [] (some 1), .memory [] none]
    running := [0, 1]
    selected := some 0 }

/-- One of two records that the stream has moved past is not stored. -/
theorem insertions_store_batches_narrow : ∃ batches : List (List Value),
    let results := (narrow.insertAll pair 0 (.object 0) [some 1, some 1]).1
    List.Forall₂ Settled results batches ∧ batches.flatten.length = 2 ∧
      (List.zipWith stored results batches).flatten.map Value.shown = ["a"] ∧
      ∃ p ∈ results.zip batches, p.1.toOption = none ∧ p.2 ≠ [] := by
  have moved : ((narrow.insertAll pair 0 (.object 0) [some 1, some 1]).2.objects.stream?
      (.object 0)).map (·.2.position) = some 2 := by decide +kernel
  have kept : (narrow.insertAll pair 0 (.object 0) [some 1, some 1]).2.storage? 0 =
      some (.memory ["a"] (some 1)) := by decide +kernel
  have storage : narrow.storage? 0 = some (.memory [] (some 1)) := rfl
  have stream : narrow.objects.get? 0 = some (.stream (.fresh "f" .text)) := rfl
  obtain ⟨batches, s', settled, -, position, stream', storage', whole⟩ :=
    insertions_store_batches storage stream pair [some 1, some 1]
  have two : batches.flatten.length = 2 := by
    simpa [Objects.stream?, stream', position, RecordStream.fresh] using moved
  have one : (List.zipWith stored (narrow.insertAll pair 0 (.object 0) [some 1, some 1]).1
      batches).flatten.map Value.shown = ["a"] := by
    simpa [kept] using storage'.symm
  refine ⟨batches, settled, two, one, ?_⟩
  by_contra none
  have same := whole.mpr fun p member failed => by
    by_contra lost
    exact none ⟨p, member, failed, lost⟩
  have length := congrArg List.length one
  rw [same, List.length_map, two] at length
  exact absurd length (by decide)

/-- A record is lost where a storage has no room for it: the stream has moved past it, and the next
read finds the end. -/
theorem second_record_is_lost :
    let b := (narrow.insertAll pair 0 (.object 0) [some 1, some 1]).2
    (b.objects.stream? (.object 0)).map (·.2.position) = some 2 ∧
      b.storage? 0 = some (.memory ["a"] (some 1)) ∧
      (b.runOn pair 1 (.fresh (.insert (.object 0) (some 1)))).1.toOption.isNone ∧
      (b.runOn pair 1 (.fresh (.insert (.object 0) none))).2.storage? 1 =
        some (.memory [] none) := by
  refine ⟨?_, ?_, ?_, ?_⟩ <;> decide +kernel

end Bench

end Runbook
