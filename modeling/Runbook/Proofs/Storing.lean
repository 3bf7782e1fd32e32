import Mathlib.Data.List.Infix
import Runbook.Proofs.Accumulating
import Runbook.Proofs.Inserting
import Runbook.Proofs.LineReader
/-! A storage that keeps its records as a list of texts. What one operation does to the list is said
by rules, and a storage that operations are carried out on one after the other goes by them. -/
namespace Runbook

namespace RecordStream

/-- How a batch comes about: by one read after the other, up to the limit. `started` tells whether
there is a record before it. -/
inductive Batch (files : FileTree) :
    Option Nat → Bool → RecordStream → Except Failure (List Value) → Prop
  | full {started : Bool} {s : RecordStream} : Batch files (some 0) started s (.ok [])
  | record {limit : Option Nat} {started : Bool} {s s' : RecordStream} {v : Value}
      {result : Except Failure (List Value)} (room : limit ≠ some 0)
      (next : s.next files = (.ok v, s')) (more : Batch files (limit.map (· - 1)) true s' result) :
      Batch files limit started s (result.map (v :: ·))
  /-- The end is no failure once there is a record, or without a limit. -/
  | ended {limit : Option Nat} {started : Bool} {s s' : RecordStream} {f : Failure}
      (room : limit ≠ some 0) (next : s.next files = (.error f, s'))
      (atEnd : f.kind = .noSuchElement) (fine : started = true ∨ limit = none) :
      Batch files limit started s (.ok [])
  | failed {limit : Option Nat} {started : Bool} {s s' : RecordStream} {f : Failure}
      (room : limit ≠ some 0) (next : s.next files = (.error f, s'))
      (fatal : ¬ (f.kind = .noSuchElement ∧ (started = true ∨ limit = none))) :
      Batch files limit started s (.error f)

variable {files : FileTree} {limit : Option Nat} {started : Bool} {s s' : RecordStream} {v : Value}
  {result result' : Except Failure (List Value)} {values : List Value}

theorem Batch.unique (h : Batch files limit started s result)
    (h' : Batch files limit started s result') : result' = result := by
  induction h generalizing result' with
  | full =>
    cases h' with
    | full => rfl
    | record room => exact absurd rfl room
    | ended room => exact absurd rfl room
    | failed room => exact absurd rfl room
  | record room next _ ih =>
    cases h' with
    | full => exact absurd rfl room
    | record _ next' more' =>
      cases next.symm.trans next'
      rw [ih more']
    | ended _ next' => cases next.symm.trans next'
    | failed _ next' => cases next.symm.trans next'
  | ended room next atEnd fine =>
    cases h' with
    | full => rfl
    | record _ next' => cases next.symm.trans next'
    | ended => rfl
    | failed _ next' fatal =>
      cases next.symm.trans next'
      exact absurd ⟨atEnd, fine⟩ fatal
  | failed room next fatal =>
    cases h' with
    | full => exact absurd rfl room
    | record _ next' => cases next.symm.trans next'
    | ended _ next' atEnd fine =>
      cases next.symm.trans next'
      exact absurd ⟨atEnd, fine⟩ fatal
    | failed _ next' =>
      cases next.symm.trans next'
      rfl

theorem Batch.length_le {n : Nat} (h : Batch files limit started s result)
    (limited : limit = some n) (gives : result = .ok values) : values.length ≤ n := by
  induction h generalizing n values with
  | full =>
    cases gives
    exact Nat.zero_le n
  | @record limit _ _ _ v result room _ _ ih =>
    subst limited
    cases result with
    | error f => cases gives
    | ok more =>
      cases gives
      have fewer := ih rfl rfl
      have positive : n ≠ 0 := by simpa using room
      simp only [List.length_cons] at *
      omega
  | ended =>
    cases gives
    exact Nat.zero_le n
  | failed => cases gives

theorem length_lineOf_le (bytes : Bytes) : (lineOf bytes).length ≤ bytes.length := by
  have whole := congrArg List.length
    (List.takeWhile_append_dropWhile (p := fun b => decide (b ≠ lineFeed)) (l := bytes))
  rw [List.length_append] at whole
  rw [lineOf, List.length_append, List.length_take]
  omega

/-- Skimming to a line takes some of the bytes. -/
theorem skim_within {bytes : Bytes} {taken taken' : Nat} {text : String}
    (h : skim bytes taken = (.line text, taken')) :
    taken < taken' ∧ taken' ≤ taken + bytes.length := by
  fun_induction skim bytes taken with
  | case1 => cases h
  | case2 => cases h
  | case3 taken b rest line further _ _ _ _ ih =>
    obtain ⟨more, within⟩ := ih h
    have some : 0 < line.length := length_lineOf
    have inside : line.length ≤ (b :: rest).length := length_lineOf_le _
    rw [List.length_drop] at within
    omega
  | case4 taken b rest line further =>
    have some : 0 < line.length := length_lineOf
    have inside : line.length ≤ (b :: rest).length := length_lineOf_le _
    obtain ⟨-, rfl⟩ := Prod.mk.inj h
    omega

def left (files : FileTree) (s : RecordStream) : Nat :=
  ((files.read s.path).toOption.map List.length).getD 0 - s.taken.getD 0

theorem left_next (h : s.next files = (.ok v, s')) : s'.left files < s.left files := by
  unfold next at h
  split at h
  · cases (Prod.mk.inj h).1
  split at h
  · cases (Prod.mk.inj h).1
  rename_i bytes read
  cases found : skim (bytes.drop (s.taken.getD 0)) (s.taken.getD 0) with
  | mk what taken =>
    simp only [found] at h
    split at h
    · cases (Prod.mk.inj h).1
    · cases (Prod.mk.inj h).1
    split at h
    · obtain ⟨-, rfl⟩ := Prod.mk.inj h
      obtain ⟨more, within⟩ := skim_within found
      rw [List.length_drop] at within
      simp only [left, read, Except.toOption, Option.map_some, Option.getD_some]
      omega
    · cases (Prod.mk.inj h).1

/-- Reading on is a batch. `bound` is more than the bytes that are left. -/
theorem batch_takeMore {bound : Nat} (enough : s.left files < bound) :
    Batch files limit started s (s.takeMore files limit started bound).1 := by
  induction bound generalizing limit started s with
  | zero => exact absurd enough (Nat.not_lt_zero _)
  | succ bound ih =>
    by_cases full : limit = some 0
    · subst full
      rw [takeMore, if_pos rfl]
      exact .full
    cases next : s.next files with
    | mk result s' =>
      cases result with
      | ok v =>
        have less := left_next next
        rw [takeMore_ok full next]
        exact .record full next (ih (by omega))
      | error f =>
        rw [takeMore_error full next]
        split
        · rename_i goesOn
          exact .ended full next goesOn.1 goesOn.2
        · rename_i stops
          exact .failed full next stops

theorem batch_take (files : FileTree) (s : RecordStream) (limit : Option Nat) :
    Batch files limit false s (s.take files limit).1 := by
  refine batch_takeMore ?_
  unfold left
  omega

end RecordStream

namespace Storage

def Alone (objects : Objects) : Value → Prop
  | .list _ => False
  | .object id => ∀ object, objects.get? id = some object →
    (∀ s, object ≠ .stream s) ∧ ∀ items, object ≠ .collection items
  | _ => True

/-- What a source gives. A value that is one record is given whatever the count. -/
inductive Gives (files : FileTree) (objects : Objects) (count : Option Nat) :
    Value → Except Failure (List Value) → Prop
  | stream {id : Nat} {s : RecordStream} {result : Except Failure (List Value)}
      (there : objects.get? id = some (.stream s))
      (batch : RecordStream.Batch files count false s result) :
      Gives files objects count (.object id) result
  | collection {id : Nat} {items : List Value}
      (there : objects.get? id = some (.collection items)) :
      Gives files objects count (.object id) (.ok (items.take (count.getD items.length)))
  | list {items : List Value} :
      Gives files objects count (.list items) (.ok (items.take (count.getD items.length)))
  | single {v : Value} (alone : Alone objects v) : Gives files objects count v (.ok [v])

/-- What an operation answers where texts are kept in a list, and the list afterwards. -/
inductive Acts (files : FileTree) (objects : Objects) (capacity : Option Nat)
    (records : List String) : OperationKind → Except Failure (List Value) → List String → Prop
  | inserted {source : Value} {count : Option Nat} {values : List Value}
      (gives : Gives files objects count source (.ok values))
      (room : ∀ n, capacity = some n → records.length + values.length ≤ n) :
      Acts files objects capacity records (.insert source count) (.ok [.ofCount values.length])
        (records ++ values.map objects.display)
  | full {source : Value} {count : Option Nat} {values : List Value} {n : Nat}
      (gives : Gives files objects count source (.ok values)) (limited : capacity = some n)
      (beyond : n < records.length + values.length) :
      Acts files objects capacity records (.insert source count)
        (.error ⟨.illegalState, "capacity " ++ toString n ++ " exceeded"⟩) records
  | unread {source : Value} {count : Option Nat} {f : Failure}
      (gives : Gives files objects count source (.error f)) :
      Acts files objects capacity records (.insert source count) (.error f) records
  | counted : Acts files objects capacity records .count (.ok [.ofCount records.length]) records
  | got {position : Nat} {record : String} (inside : records[position]? = some record) :
      Acts files objects capacity records (.get position) (.ok [.text record]) records
  | missed {position : Nat} (outside : records.length ≤ position) :
      Acts files objects capacity records (.get position) (.error ⟨.noSuchElement, "position " ++
        toString position ++ " of " ++ toString records.length ++ " records"⟩) records
  | found {needle : String} :
      Acts files objects capacity records (.search needle)
        (.ok ((records.filter fun record => needle.toList <:+: record.toList).map .text)) records
  | cleared : Acts files objects capacity records .clear (.ok [.ofCount records.length]) []

variable {files : FileTree} {objects : Objects} {count capacity : Option Nat} {source : Value}
  {result result' : Except Failure (List Value)} {values : List Value} {n : Nat}
  {records after after' : List String} {kind : OperationKind}

theorem Gives.unique (h : Gives files objects count source result)
    (h' : Gives files objects count source result') : result' = result := by
  cases h with
  | stream there batch =>
    cases h' with
    | stream there' batch' =>
      cases there.symm.trans there'
      exact batch.unique batch'
    | collection there' => cases there.symm.trans there'
    | single alone => exact absurd rfl ((alone _ there).1 _)
  | collection there =>
    cases h' with
    | stream there' => cases there.symm.trans there'
    | collection there' =>
      cases there.symm.trans there'
      rfl
    | single alone => exact absurd rfl ((alone _ there).2 _)
  | list =>
    cases h' with
    | list => rfl
    | single alone => exact alone.elim
  | single alone =>
    cases h' with
    | stream there => exact absurd rfl ((alone _ there).1 _)
    | collection there => exact absurd rfl ((alone _ there).2 _)
    | list => exact alone.elim
    | single => rfl

/-- A source gives at most as many records as are asked for. One that is a record itself is given
also where none is asked for. -/
theorem Gives.length_le (h : Gives files objects (some n) source (.ok values)) :
    values.length ≤ n ∨ n = 0 ∧ values = [source] := by
  cases h with
  | stream _ batch => exact .inl (batch.length_le rfl rfl)
  | collection => exact .inl (List.length_take_le ..)
  | list => exact .inl (List.length_take_le ..)
  | single =>
    by_cases none : n = 0
    · exact .inr ⟨none, rfl⟩
    · exact .inl (Nat.one_le_iff_ne_zero.mpr none)

theorem Acts.unique (h : Acts files objects capacity records kind result after)
    (h' : Acts files objects capacity records kind result' after') :
    result' = result ∧ after' = after := by
  cases h with
  | inserted gives room =>
    cases h' with
    | inserted gives' =>
      cases gives.unique gives'
      exact ⟨rfl, rfl⟩
    | full gives' limited beyond =>
      cases gives.unique gives'
      exact absurd (room _ limited) (Nat.not_le.mpr beyond)
    | unread gives' => cases gives.unique gives'
  | full gives limited beyond =>
    cases h' with
    | inserted gives' room =>
      cases gives.unique gives'
      exact absurd (room _ limited) (Nat.not_le.mpr beyond)
    | full gives' limited' =>
      cases limited.symm.trans limited'
      exact ⟨rfl, rfl⟩
    | unread gives' => cases gives.unique gives'
  | unread gives =>
    cases h' with
    | inserted gives' => cases gives.unique gives'
    | full gives' => cases gives.unique gives'
    | unread gives' =>
      cases gives.unique gives'
      exact ⟨rfl, rfl⟩
  | counted =>
    cases h'
    exact ⟨rfl, rfl⟩
  | got inside =>
    cases h' with
    | got inside' =>
      cases inside.symm.trans inside'
      exact ⟨rfl, rfl⟩
    | missed outside => rw [List.getElem?_eq_none outside] at inside; cases inside
  | missed outside =>
    cases h' with
    | got inside => rw [List.getElem?_eq_none outside] at inside; cases inside
    | missed => exact ⟨rfl, rfl⟩
  | found =>
    cases h'
    exact ⟨rfl, rfl⟩
  | cleared =>
    cases h'
    exact ⟨rfl, rfl⟩

/-- A list that is within the capacity stays within it. -/
theorem Acts.within (h : Acts files objects capacity records kind result after)
    (within : ∀ n, capacity = some n → records.length ≤ n) (n : Nat) (limited : capacity = some n) :
    after.length ≤ n := by
  cases h with
  | inserted _ room => simpa using room n limited
  | cleared => exact Nat.zero_le n
  | full | unread | counted | got | missed | found => exact within n limited

theorem limited_eq (count : Option Nat) (items : List Value) :
    limited count items = items.take (count.getD items.length) := by
  cases count <;> simp [limited]

theorem gives_sourceValues (files : FileTree) (objects : Objects) (source : Value)
    (count : Option Nat) :
    Gives files objects count source (sourceValues files objects source count).1 := by
  cases source with
  | object id =>
    cases there : objects.get? id with
    | none =>
      simp only [sourceValues, Objects.stream?, Objects.collection?, there]
      exact .single (by simp [Alone, there])
    | some object =>
      simp only [sourceValues, Objects.stream?, Objects.collection?, there]
      cases object with
      | counter m => exact .single (by simp [Alone, there])
      | collection items =>
        simp only [limited_eq]
        exact .collection there
      | stream s => exact .stream there (RecordStream.batch_take files s count)
  | list items =>
    simp only [sourceValues, Objects.stream?, Objects.collection?, limited_eq]
    exact .list
  | null | bool | int | float | text => exact .single trivial

/-- Moving on a stream changes nothing in how its records are shown. -/
theorem sourceRecords_eq (files : FileTree) (objects : Objects) (source : Value)
    (count : Option Nat) :
    (sourceRecords files objects source count).1 =
      (sourceValues files objects source count).1.map (·.map objects.display) := by
  unfold sourceRecords sourceValues
  cases objects.stream? source with
  | some place =>
    obtain ⟨id, s⟩ := place
    cases taken : s.take files count with
    | mk result s' =>
      obtain ⟨values, reads, whole, -⟩ := RecordStream.reads_takeMore taken
      cases result with
      | error f => simp only [taken, Except.map]
      | ok batch =>
        obtain rfl := whole batch rfl
        simp only [taken, Except.map, reads.display]
  | none =>
    cases objects.collection? source with
    | some place => rfl
    | none => cases source <;> rfl

theorem occursIn_iff {needle text : List Char} :
    occursIn needle text = true ↔ needle <:+: text := by
  induction text with
  | nil => simp [occursIn]
  | cons c rest ih =>
    rw [occursIn, Bool.or_eq_true, ih, List.isPrefixOf_iff_prefix, List.infix_cons_iff]

theorem fits_iff {size : Nat} : fits capacity size = true ↔ ∀ n, capacity = some n → size ≤ n := by
  cases capacity <;> simp [fits]

def afterwards (s : Storage) : Except Failure Answer → Storage
  | .ok (_, s') => s'
  | .error _ => s

/-- An insertion has read its source before it looks for room, so that all of it or nothing is
stored. -/
theorem acts_insert (files : FileTree) (objects : Objects) (capacity : Option Nat)
    (records : List String) (source : Value) (count : Option Nat) :
    let r := ((memory records capacity).run files objects (.insert source count)).1
    ∃ after, Acts files objects capacity records (.insert source count) (r.map Prod.fst) after ∧
      (memory records capacity).afterwards r = memory after capacity := by
  intro r
  have gives := gives_sourceValues files objects source count
  have read : r = ((sourceValues files objects source count).1.map
      (·.map objects.display)).bind (memory records capacity).insert := by
    rw [← sourceRecords_eq]
    rfl
  cases given : (sourceValues files objects source count).1 with
  | error f =>
    rw [given] at gives read
    exact ⟨records, read ▸ .unread gives, read ▸ rfl⟩
  | ok values =>
    rw [given] at gives read
    by_cases room : fits capacity (records.length + values.length) = true
    · have done : r = .ok ([.ofCount values.length],
          memory (records ++ values.map objects.display) capacity) := by
        simp [read, Except.map, Except.bind, insert, room]
      exact ⟨records ++ values.map objects.display, done ▸ .inserted gives (fits_iff.mp room),
        done ▸ rfl⟩
    · have refused : r = .error ⟨.illegalState,
          "capacity " ++ toString (capacity.getD 0) ++ " exceeded"⟩ := by
        simp [read, Except.map, Except.bind, insert, room]
      cases capacity with
      | none => exact absurd rfl room
      | some n =>
        have beyond : n < records.length + values.length := by simpa [fits] using room
        exact ⟨records, refused ▸ .full gives rfl beyond, refused ▸ rfl⟩

/-- A storage that keeps its records acts as the list of them. -/
theorem acts_run (files : FileTree) (objects : Objects) (capacity : Option Nat)
    (records : List String) (kind : OperationKind) :
    let r := ((memory records capacity).run files objects kind).1
    ∃ after, Acts files objects capacity records kind (r.map Prod.fst) after ∧
      (memory records capacity).afterwards r = memory after capacity := by
  intro r
  cases kind with
  | insert source count => exact acts_insert files objects capacity records source count
  | count => exact ⟨records, .counted, rfl⟩
  | get position =>
    cases inside : records[position]? with
    | none =>
      have missed : r = .error ⟨.noSuchElement, "position " ++ toString position ++ " of " ++
          toString records.length ++ " records"⟩ := by
        simp only [r, run, answer, inside]
      exact ⟨records, missed ▸ .missed (List.getElem?_eq_none_iff.mp inside), missed ▸ rfl⟩
    | some record =>
      have got : r = .ok ([.text record], memory records capacity) := by
        simp only [r, run, answer, inside]
      exact ⟨records, got ▸ .got inside, got ▸ rfl⟩
  | search needle =>
    have same : (fun record : String => occursIn needle.toList record.toList) =
        fun record => decide (needle.toList <:+: record.toList) := by
      funext record
      exact Bool.eq_iff_iff.mpr (by simp [occursIn_iff])
    have found : r = .ok ((records.filter fun record =>
        needle.toList <:+: record.toList).map .text, memory records capacity) := by
      simp only [r, run, answer, same]
    exact ⟨records, found ▸ .found, found ▸ rfl⟩
  | clear => exact ⟨[], .cleared, rfl⟩

end Storage

namespace Bench

/-- An operation that is submitted, with the files and the objects as they are then. -/
structure Submission where
  files : FileTree
  objects : Objects
  operation : Operation

structure Reply where
  result : Except Failure Operation
  last : Option Operation

def submit (b : Bench) (c : Submission) : Reply × Bench :=
  let (result, b) := { b with objects := c.objects }.execute c.files c.operation
  (⟨result, b.last⟩, b)

def submitAll (b : Bench) : List Submission → List Reply × Bench
  | [] => ([], b)
  | c :: submissions =>
    let (reply, b) := b.submit c
    let (replies, b) := b.submitAll submissions
    (reply :: replies, b)

def reply (o : Operation) : Except Failure (List Value) → Reply
  | .ok results => ⟨.ok (o.completed results), some (o.completed results)⟩
  | .error f => ⟨.error f, some o⟩

inductive Stores (capacity : Option Nat) :
    List String → List Submission → List Reply → List String → Prop
  | nil {records : List String} : Stores capacity records [] [] records
  | cons {records after final : List String} {c : Submission} {submissions : List Submission}
      {answer : Except Failure (List Value)} {replies : List Reply}
      (acts : Storage.Acts c.files c.objects capacity records c.operation.kind answer after)
      (rest : Stores capacity after submissions replies final) :
      Stores capacity records (c :: submissions) (reply c.operation answer :: replies) final

variable {b : Bench} {files : FileTree} {o : Operation} {s : Storage} {index number : Nat}
  {capacity : Option Nat} {records final final' : List String} {submissions : List Submission}
  {replies replies' : List Reply}

theorem Stores.unique (h : Stores capacity records submissions replies final)
    (h' : Stores capacity records submissions replies' final') :
    replies' = replies ∧ final' = final := by
  induction h generalizing replies' with
  | nil =>
    cases h'
    exact ⟨rfl, rfl⟩
  | cons acts _ ih =>
    cases h' with
    | cons acts' rest' =>
      obtain ⟨rfl, rfl⟩ := acts.unique acts'
      obtain ⟨rfl, rfl⟩ := ih rest'
      exact ⟨rfl, rfl⟩

theorem Stores.within (h : Stores capacity records submissions replies final)
    (within : ∀ n, capacity = some n → records.length ≤ n) :
    ∀ n, capacity = some n → final.length ≤ n := by
  induction h with
  | nil => exact within
  | cons acts _ ih => exact ih (acts.within within)

/-- The selected storage carries an operation out, and stays selected. -/
theorem storage_execute (selected : b.selectedStorage = .ok (index, number))
    (storage : b.storage? number = some s) (files : FileTree) (o : Operation) :
    (b.execute files o).2.storage? number =
        some (s.afterwards (s.run files b.objects o.kind).1) ∧
      (b.execute files o).2.selectedStorage = b.selectedStorage := by
  have there : number < b.storages.length := (List.getElem?_eq_some_iff.mp storage).1
  have found : { b with last := some o }.storage? number = some s := storage
  cases ran : s.run files b.objects o.kind with
  | mk result objects =>
    cases result with
    | error f =>
      simp only [execute, selected, runOn, found, ran]
      exact ⟨storage, selected⟩
    | ok answer =>
      simp only [execute, selected, runOn, found, ran]
      exact ⟨List.getElem?_set_self there, selected⟩

theorem reply_execute (selected : b.selectedStorage = .ok (index, number)) (files : FileTree)
    (o : Operation) :
    (⟨(b.execute files o).1, (b.execute files o).2.last⟩ : Reply) =
      reply o (b.yields files o.kind) := by
  have has : b.hasSelected = true := by simp [hasSelected, selected, Except.toOption]
  cases yields : b.yields files o.kind with
  | error f =>
    obtain ⟨result, last⟩ := execute_failed has yields
    rw [result, last, reply]
  | ok results =>
    obtain ⟨result, last⟩ := execute_completed yields
    rw [result, last, reply]

/-- An operation that is submitted is replied to as the storage acts. -/
theorem stores_submit (selected : b.selectedStorage = .ok (index, number))
    (storage : b.storage? number = some (.memory records capacity)) (c : Submission) :
    ∃ answer after,
      Storage.Acts c.files c.objects capacity records c.operation.kind answer after ∧
      (b.submit c).1 = reply c.operation answer ∧
      (b.submit c).2.storage? number = some (.memory after capacity) ∧
      (b.submit c).2.selectedStorage = .ok (index, number) := by
  let before : Bench := { b with objects := c.objects }
  have chosen : before.selectedStorage = .ok (index, number) := selected
  have found : before.storage? number = some (.memory records capacity) := storage
  have yields : before.yields c.files c.operation.kind =
      ((Storage.memory records capacity).run c.files c.objects c.operation.kind).1.map
        Prod.fst := by
    simp only [Bench.yields, chosen, found]
    rfl
  obtain ⟨after, acts, kept⟩ :=
    Storage.acts_run c.files c.objects capacity records c.operation.kind
  obtain ⟨storage', selected'⟩ := storage_execute chosen found c.files c.operation
  refine ⟨_, after, acts, ?_, ?_, selected'.trans selected⟩
  · rw [← yields]
    exact reply_execute chosen c.files c.operation
  · rw [← kept]
    exact storage'

/-- Operations that are submitted one after the other are replied to as the list replies. -/
theorem stores_submitAll (selected : b.selectedStorage = .ok (index, number))
    (storage : b.storage? number = some (.memory records capacity))
    (submissions : List Submission) :
    ∃ final, Stores capacity records submissions (b.submitAll submissions).1 final ∧
      (b.submitAll submissions).2.storage? number = some (.memory final capacity) := by
  induction submissions generalizing b records with
  | nil => exact ⟨records, .nil, storage⟩
  | cons c submissions ih =>
    obtain ⟨answer, after, acts, replied, storage', selected'⟩ := stores_submit selected storage c
    obtain ⟨final, stores, storage''⟩ := ih selected' storage'
    refine ⟨final, ?_, storage''⟩
    rw [submitAll]
    simp only [replied]
    exact .cons acts stores

/-- A storage that keeps its records, with or without a capacity, behaves as a list of texts under
operations that are carried out one after the other, whatever becomes of their sources in between:
the replies are those of the list and no others, its records are those of the list, and there are
never more of them than the capacity. What is inserted is at most as many records as are asked for,
but for a value that is a record itself and is stored also where none is asked for. -/
theorem storage_is_a_list (selected : b.selectedStorage = .ok (index, number))
    (storage : b.storage? number = some (.memory records capacity))
    (within : ∀ n, capacity = some n → records.length ≤ n) (submissions : List Submission) :
    let r := b.submitAll submissions
    ∃ final, (∀ replies final', Stores capacity records submissions replies final' ↔
        replies = r.1 ∧ final' = final) ∧
      r.2.storage? number = some (.memory final capacity) ∧
      (∀ n, capacity = some n → final.length ≤ n) ∧
      ∀ c ∈ submissions, ∀ source n, c.operation.kind = .insert source (some n) →
        ∀ values, Storage.Gives c.files c.objects (some n) source (.ok values) →
          values.length ≤ n ∨ n = 0 ∧ values = [source] := by
  intro r
  obtain ⟨final, stores, storage'⟩ := stores_submitAll selected storage submissions
  refine ⟨final, fun replies final' => ⟨fun h => stores.unique h, ?_⟩, storage',
    stores.within within, fun c _ source n _ values gives => gives.length_le⟩
  rintro ⟨rfl, rfl⟩
  exact stores

/-- A storage for three records. -/
def shelf : Bench :=
  { Bench.fresh with storages := [.memory [] (some 3)], running := [0], selected := some 0 }

def visits : List Submission :=
  let sources : Objects := ⟨[.collection [.text "ab", .text "b", .text "ab"]]⟩
  [.insert (.object 0) (some 2), .insert (.list [.int 1, .int 2]) none, .get 2, .search "b",
    .clear].map fun kind => ⟨pair, sources, .fresh kind⟩

/-- The list that a storage for three records behaves as has two of three records that a collection
has, refuses two more, and is empty in the end. -/
theorem storage_is_a_list_shelf : ∃ replies : List Reply,
    Stores (some 3) [] visits replies [] ∧
    replies.map (fun reply => (reply.result.toOption.map fun o => o.answer.map Value.shown)) =
      [some ["2"], none, none, some ["ab", "b"], some ["2"]] := by
  have within : ∀ n, some 3 = some n → ([] : List String).length ≤ n := fun n _ => Nat.zero_le n
  have selected : shelf.selectedStorage = .ok (0, 0) := rfl
  have bare : shelf.storage? 0 = some (.memory [] (some 3)) := rfl
  obtain ⟨final, stores, storage, -, -⟩ := storage_is_a_list selected bare within visits
  have empty : (shelf.submitAll visits).2.storage? 0 = some (.memory [] (some 3)) := by decide +kernel
  obtain rfl : final = [] := by simpa [empty] using storage.symm
  exact ⟨_, (stores _ _).mpr ⟨rfl, rfl⟩, by decide +kernel⟩

/-- A text is stored, and counted in the answer, where no record of it is asked for. -/
theorem single_record_ignores_count :
    let r := shelf.submit ⟨pair, .empty, .fresh (.insert (.text "x") (some 0))⟩
    r.2.storage? 0 = some (.memory ["x"] (some 3)) ∧
      r.1.result.toOption.map (fun o => o.answer.map Value.shown) = some ["1"] := by
  refine ⟨?_, ?_⟩ <;> decide +kernel

end Bench

end Runbook
