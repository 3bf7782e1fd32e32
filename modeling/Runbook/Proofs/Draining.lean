import Mathlib.Algebra.Order.Floor.Div
import Runbook.Command.Perform
import Runbook.Proofs.Constant
import Runbook.Proofs.Execution
import Runbook.Proofs.Keeping
import Runbook.Proofs.Reading
/-! Draining a stream into a storage. An action that inserts a batch of records, and is repeated until
there is none, comes to its end when the stream does; each record is in the storage then, once and in
its place. -/
namespace Runbook

open Course

/-- A batch less takes a round less. -/
theorem ceilDiv_sub_add_one {l n : Nat} (positive : 0 < n) (more : 0 < l) :
    (l - n) ⌈/⌉ n + 1 = l ⌈/⌉ n := by
  rw [Nat.ceilDiv_eq_add_pred_div, Nat.ceilDiv_eq_add_pred_div, ← Nat.add_div_right _ positive]
  rcases Nat.le_total n l with full | last
  · congr 1
    omega
  · rw [Nat.div_eq_of_lt_le (k := 1) (by omega) (by omega),
      Nat.div_eq_of_lt_le (k := 1) (by omega) (by omega)]

section Nothing

theorem Table.put_same {α : Type} {name : String} {value : α} {l : List (String × α)}
    (h : Table.find name l = some value) : Table.put name value l = l := by
  induction l with
  | nil => simp [Table.find] at h
  | cons e rest ih =>
    obtain ⟨key, old⟩ := e
    by_cases same : key = name
    · obtain rfl : old = value := by simpa [Table.find, same] using h
      simp [Table.put, same]
    · simp only [Table.put, if_neg same, ih (by simpa [Table.find, same] using h)]

theorem FileTree.append_nil (t : FileTree) (path : String) : t.append path [] = t := by
  unfold FileTree.append
  split
  · rfl
  · rename_i place _
    split
    · rename_i content found
      have found : t.nodes.get? (fullPath place) = some (.file content) := by
        unfold node? at found
        split at found
        · cases found
        · exact found
      have same : t.nodes.set (fullPath place) (.file (content ++ [])) = t.nodes :=
        Table.ext (by rw [List.append_nil]; exact Table.put_same found)
      rw [same]
    · rfl

/-- Writing nothing changes nothing. -/
theorem World.write_empty (w : World) (sink : Sink) : w.write sink "" = w := by
  cases sink with
  | text | console => simp [World.write]
  | file path => exact congrArg (fun files => { w with files }) (FileTree.append_nil w.files path)

end Nothing

/-- A bench at which a stream has values left, and a storage without a capacity is selected. The
stream has a name; the text of the count has none, and is read as a number. -/
structure Bench.Feeds (b : Bench) (files : FileTree) (source count : String) (n id number : Nat)
    (records : List String) (s : RecordStream) (values : List Value) : Prop where
  named : b.instances.get? source = some (.object id)
  unnamed : b.instances.get? count = none
  counted : (Value.text count).asNat? = some n
  stream : b.objects.get? id = some (.stream s)
  holds : s.Holds files values
  selected : ∃ index, b.selectedStorage = .ok (index, number)
  storage : b.storage? number = some (.memory records none)

namespace Bench

variable {b : Bench} {files : FileTree} {source count : String} {n id number : Nat}
  {records : List String} {s : RecordStream} {values : List Value}

theorem Feeds.stream? (h : b.Feeds files source count n id number records s values) :
    b.objects.stream? (.object id) = some (id, s) := by
  simp only [Objects.stream?, h.stream]

theorem Feeds.create (h : b.Feeds files source count n id number records s values) :
    Operation.create b.instances b.objects "Insert" [source, count] =
      .ok (.fresh (.insert (.object id) (some n))) := by
  have resolved : Operation.resolveArguments b.instances [source, count] =
      [.object id, .text count] := by
    simp [Operation.resolveArguments, h.named, h.unnamed]
  have counted : Operation.readCount b.objects (.text count) = .ok n := by
    simp only [Operation.readCount, h.counted]
  simp only [Operation.create, Operation.readKind, resolved, counted, Except.map]

/-- Neither the selection nor the storage depends on the last operation. -/
theorem Feeds.selected_remember (h : b.Feeds files source count n id number records s values) :
    ∃ index, ∀ last, { b with last }.selectedStorage = .ok (index, number) := by
  obtain ⟨index, selected⟩ := h.selected
  exact ⟨index, fun _ => selected⟩

theorem Feeds.storage_remember (h : b.Feeds files source count n id number records s values)
    (last : Option Operation) : { b with last }.storage? number = some (.memory records none) :=
  h.storage

/-- With another stream and other records in place, and all that nobody reads changed. -/
theorem Feeds.changed {b' : Bench} {s' : RecordStream} {records' : List String}
    {values' : List Value} (h : b.Feeds files source count n id number records s values)
    (instances : b'.instances = b.instances) (selected : b'.selected = b.selected)
    (running : b'.running = b.running)
    (objects : b'.objects = b.objects.set id (.stream s')) (holds : s'.Holds files values')
    (storages : b'.storages = b.storages.set number (.memory records' none)) :
    b'.Feeds files source count n id number records' s' values' where
  named := instances ▸ h.named
  unnamed := instances ▸ h.unnamed
  counted := h.counted
  stream := by
    rw [objects, Objects.get?_set_same]
    exact (List.getElem?_eq_some_iff.mp h.stream).1
  holds := holds
  selected := by
    obtain ⟨index, found⟩ := h.selected
    exact ⟨index, by rw [← found, selectedStorage, selectedStorage, selected, running]⟩
  storage := by
    have bound : number < b.storages.length := (List.getElem?_eq_some_iff.mp h.storage).1
    simp [storage?, storages, bound]

/-- The records that go into the storage are the first ones that are left. -/
theorem Feeds.run (h : b.Feeds files source count n id number records s values)
    (more : values ≠ []) :
    ∃ s', s.Advanced (values.take n).length s' ∧ s'.Holds files (values.drop n) ∧
      (Storage.memory records none).run files b.objects (.insert (.object id) (some n)) =
        (.ok ([.ofCount (values.take n).length],
          .memory (records ++ (values.take n).map Value.shown) none),
          b.objects.set id (.stream s')) := by
  obtain ⟨s', taken, advanced, left⟩ := h.holds.take more
  obtain ⟨bytes, _, read⟩ := h.holds.readable
  have shown : (values.take n).map (b.objects.set id (.stream s')).display =
      (values.take n).map Value.shown :=
    List.map_congr_left fun v member => read.display _ v (List.mem_of_mem_take member)
  refine ⟨s', advanced, left, ?_⟩
  simp only [Storage.run, Storage.sourceRecords, Storage.sourceValues, h.stream?, taken, Except.map,
    shown, Except.bind, Storage.answer, Storage.insert, Storage.fits, Option.all_none, if_true,
    List.length_map]

theorem Feeds.run_none (h : b.Feeds files source count n id number records s [])
    (positive : 0 < n) :
    ∃ s' f, s.Advanced 0 s' ∧ s'.Holds files [] ∧ f.kind = .noSuchElement ∧
      (Storage.memory records none).run files b.objects (.insert (.object id) (some n)) =
        (.error f, b.objects.set id (.stream s')) := by
  obtain ⟨s', f, taken, kind, advanced, left⟩ := h.holds.take_none positive
  refine ⟨s', f, advanced, left, kind, ?_⟩
  simp only [Storage.run, Storage.sourceRecords, Storage.sourceValues, h.stream?, taken, Except.map,
    Except.bind]

/-- One batch goes from the stream into the storage. -/
theorem Feeds.execute (h : b.Feeds files source count n id number records s values)
    (more : values ≠ []) :
    ∃ b' s', b.carryOut files (.execute "Insert" [source, count]) = (.ok "", b') ∧
      s.Advanced (values.take n).length s' ∧
      b'.Feeds files source count n id number (records ++ (values.take n).map Value.shown) s'
        (values.drop n) := by
  obtain ⟨s', advanced, left, ran⟩ := h.run more
  obtain ⟨index, selected⟩ := h.selected_remember
  refine ⟨?_, s', ?_, advanced, ?_⟩
  rotate_left
  · simp only [carryOut, withOperation, prepare, h.create, Except.map, Bench.execute, selected,
      runOn, h.storage_remember, Operation.fresh, ran]
    rfl
  · exact h.changed rfl rfl rfl rfl left rfl

/-- Where no value is left there is no batch, and all records stay. -/
theorem Feeds.execute_none (h : b.Feeds files source count n id number records s [])
    (positive : 0 < n) :
    ∃ b' s' f, b.carryOut files (.execute "Insert" [source, count]) = (.error f, b') ∧
      f.kind = .noSuchElement ∧ s.Advanced 0 s' ∧
      b'.Feeds files source count n id number records s' [] := by
  obtain ⟨s', f, advanced, left, kind, ran⟩ := h.run_none positive
  obtain ⟨index, selected⟩ := h.selected_remember
  refine ⟨?_, s', f, ?_, kind, advanced, ?_⟩
  rotate_left
  · simp only [carryOut, withOperation, prepare, h.create, Except.map, Bench.execute, selected,
      runOn, h.storage_remember, Operation.fresh, ran]
    rfl
  · refine h.changed rfl rfl rfl rfl left ?_
    obtain ⟨bound, same⟩ := List.getElem?_eq_some_iff.mp h.storage
    exact (same ▸ List.set_getElem_self bound).symm

end Bench

structure World.Feeds (w : World) (source count : String) (n id number : Nat)
    (records : List String) (s : RecordStream) (values : List Value) : Prop where
  running : w.shutdown = false
  known : w.command? "operationExecute" = some .operationExecute
  bench : w.bench.Feeds w.files source count n id number records s values

namespace World

variable {w : World} {source count : String} {n id number : Nat} {records : List String}
  {s : RecordStream} {values : List Value}

/-- The command that inserts a batch succeeds as long as a value is left. -/
theorem Feeds.perform (h : w.Feeds source count n id number records s values)
    (more : values ≠ []) :
    ∃ w' s', s.Advanced (values.take n).length s' ∧
      w'.Feeds source count n id number (records ++ (values.take n).map Value.shown) s'
        (values.drop n) ∧
      ∀ e sink, Command.perform e .operationExecute ["Insert", source, count] sink w =
        after [(⟨[], .wrote sink ""⟩, w')] (.done (.ok true) w') := by
  obtain ⟨b', s', ran, advanced, left⟩ := h.bench.execute more
  refine ⟨{ w with bench := b' }, s', advanced, ⟨h.running, h.known, left⟩, fun e sink => ?_⟩
  simp only [Command.perform, Request.read, Request.perform, Request.onBench, ran, say,
    write_empty]
  rfl

/-- And it fails where none is. -/
theorem Feeds.perform_none (h : w.Feeds source count n id number records s [])
    (positive : 0 < n) :
    ∃ w' s' f, f.kind = .noSuchElement ∧ s.Advanced 0 s' ∧
      w'.Feeds source count n id number records s' [] ∧
      ∀ e sink, Command.perform e .operationExecute ["Insert", source, count] sink w =
        .done (.error f) w' := by
  obtain ⟨b', s', f, ran, kind, advanced, left⟩ := h.bench.execute_none positive
  refine ⟨{ w with bench := b' }, s', f, kind, advanced, ⟨h.running, h.known, left⟩,
    fun e sink => ?_⟩
  simp only [Command.perform, Request.read, Request.perform, Request.onBench, ran]

end World

/-- An action that inserts a batch of records, and is repeated until there is none. Nothing else is
said of it. -/
structure ControlFile.Drains (control : ControlFile) (action source count : String) : Prop where
  target : control.Reads action "operationExecute"
  arguments : control.Passes action 1 ["Insert", source, count]
  until_ : control.get? (Modifier.repeatUntil.entryName action) = some "NoSuchElement"
  only : ∀ m : Modifier, m ≠ .repeatUntil → control.get? (m.entryName action) = none

def Plan.draining : Plan := ⟨⟨some (.only .noSuchElement), none⟩, .unbounded, none, none, none⟩

def Descriptor.draining (action : String) : Descriptor where
  name := action
  repeats := none
  foreach := none
  repeatUntil := some "NoSuchElement"
  ignore := none
  loopVariable := none
  postponeUntil := none
  outputFile := none
  assign := none
  repeatEvery := none

namespace ControlFile.Drains

variable {control : ControlFile} {action source count : String} (h : control.Drains action source count)
include h

theorem modifier? {m : Modifier} (other : m ≠ .repeatUntil) (vars : Variables) :
    control.modifier? action m vars = none := by
  rw [ControlFile.modifier?, h.only m other, Option.map_none]

theorem modifier?_until (vars : Variables) :
    control.modifier? action .repeatUntil vars = some "NoSuchElement" := by
  rw [ControlFile.modifier?, h.until_, Option.map_some,
    substitute_closed (Placeholder.closed_of_not_mem (by decide))]

theorem read (vars : Variables) : Descriptor.read control action vars = .draining action := by
  simp only [Descriptor.read, h.modifier?_until, h.modifier?, ne_eq, reduceCtorEq, not_false_eq_true]
  rfl

theorem dispatch {perform : Performer} {e : Engine} {call : Call} {frame : Frame} {w : World}
    (calls : call.action = action) (same : frame.control = control)
    (known : w.command? "operationExecute" = some .operationExecute) :
    Action.dispatch perform e call frame w =
      (Action.command perform e .operationExecute ["Insert", source, count] call.sink w).map
        fun answer => (answer, frame) := by
  have plain : Text.hasBlank "operationExecute" = false := by decide
  have other : ControlFile.selfNaming.contains ("operationExecute", 3) = false := by decide
  simp only [Action.dispatch, calls, same, h.target.target, plain, known,
    h.arguments.arguments h.target other]
  rfl

end ControlFile.Drains

theorem Plan.resolve_draining (action : String) :
    Plan.resolve (.draining action) = .ok .draining := by
  have given : (some "NoSuchElement").bind Text.nonBlank = some "NoSuchElement" := by decide
  have known : FailureClass.ofName? "NoSuchElement" = some (.only .noSuchElement) :=
    FailureClass.ofName?_name (.only .noSuchElement)
  have until_ : readNonBlank (some "NoSuchElement") FailureClass.ofName? .unknownUntil =
      .ok (some (.only .noSuchElement)) := by
    simp only [readNonBlank, given, known]
  have policy : Policy.resolve (.draining action) = .ok ⟨some (.only .noSuchElement), none⟩ := by
    simp only [Policy.resolve, Descriptor.draining, until_]
    rfl
  simp only [Plan.resolve, policy]
  rfl

/-- Whether a command starts. -/
def Happening.isStart : Happening → Bool
  | .started .. => true
  | _ => false

def starts (told : List (Event × World)) : List Event :=
  (told.map Prod.fst).filter (·.what.isStart)

theorem starts_append (told more : List (Event × World)) :
    starts (told ++ more) = starts told ++ starts more := by
  simp [starts]

theorem starts_under (layer : Layer) (told : List (Event × World)) :
    starts (told.map fun e => (e.1.under layer, e.2)) = (starts told).map (Event.under layer) := by
  simp only [starts, List.map_map, List.filter_map]
  rfl

def Event.batch (source count : String) (index : Nat) : Event :=
  ⟨[.round index], .started .operationExecute ["Insert", source, count]⟩

namespace ControlFile.Drains

variable {control : ControlFile} {action source count : String} {n id number : Nat}
  {records : List String} {s : RecordStream} {values : List Value} {e : Engine} {sink : Sink}
  {throws : Bool} {loop? : Option LoopVariable} {frame : Frame} {w : World}

abbrev body (e : Engine) (action : String) (sink : Sink) (throws : Bool) : Body :=
  Action.dispatch Command.perform e
    (Action.inner ⟨action, sink, throws⟩ Plan.draining.policy)

abbrev round (e : Engine) (action : String) (sink : Sink) (throws : Bool)
    (loop? : Option LoopVariable) : Nat → Frame → World → Course World (Round Answer Frame) :=
  Iteration.round ⟨action, sink, throws⟩ .draining loop? (body e action sink throws)

theorem body_batch (h : control.Drains action source count) (same : frame.control = control)
    (feeds : w.Feeds source count n id number records s values) (more : values ≠ []) :
    ∃ w' s', s.Advanced (values.take n).length s' ∧
      w'.Feeds source count n id number (records ++ (values.take n).map Value.shown) s'
        (values.drop n) ∧
      body e action sink throws frame w =
        after [(⟨[], .started .operationExecute ["Insert", source, count]⟩, w),
          (⟨[.command .operationExecute], .wrote sink ""⟩, w')] (.done (.ok true, frame) w') := by
  obtain ⟨w', s', advanced, left, ran⟩ := feeds.perform more
  refine ⟨w', s', advanced, left, ?_⟩
  rw [body, h.dispatch rfl same feeds.known, Action.command, World.tell_eq, bind_after, bind_done,
    ran]
  rfl

theorem body_none (h : control.Drains action source count) (same : frame.control = control)
    (feeds : w.Feeds source count n id number records s []) (positive : 0 < n) :
    ∃ w' s' f, f.kind = .noSuchElement ∧ s.Advanced 0 s' ∧
      w'.Feeds source count n id number records s' [] ∧
      body e action sink throws frame w =
        after [(⟨[], .started .operationExecute ["Insert", source, count]⟩, w),
          (⟨[], .raised f⟩, w')] (.done (.error f, frame) w') := by
  obtain ⟨w', s', f, kind, advanced, left, ran⟩ := feeds.perform_none positive
  refine ⟨w', s', f, kind, advanced, left, ?_⟩
  rw [body, h.dispatch rfl same feeds.known, Action.command, World.tell_eq, bind_after, bind_done,
    ran]
  rfl

/-- Neither description is there to be written. -/
theorem describe (h : control.Drains action source count) (same : frame.control = control)
    {m : Modifier} (other : m ≠ .repeatUntil) :
    Iteration.describe m ⟨action, sink, throws⟩ frame w = .done () w := by
  simp only [Iteration.describe, same, h.modifier? other]

/-- A round is its body, and what that leads to. -/
theorem round_eq (h : control.Drains action source count) (running : w.shutdown = false)
    {index : Nat} {bound left : Frame} {answer : Answer} {told : List (Event × World)} {w' : World}
    (bind : Iteration.bind loop? .unbounded index frame = bound) (same : bound.control = control)
    (ran : body e action sink throws bound w = after told (.done (answer, left) w')) :
    round e action sink throws loop? index frame w =
      after ((⟨[], .turned index⟩, w) :: told.map fun e => (e.1.under (.round index), e.2))
        (Iteration.conclude ⟨action, sink, throws⟩ Plan.draining.policy answer left w') := by
  rw [round, Iteration.round_eq running bind (h.describe same (by decide)), ran, under_after,
    bind_after]
  rfl

/-- A round with a batch is followed by another one. -/
theorem round_batch (h : control.Drains action source count) (same : frame.control = control)
    (feeds : w.Feeds source count n id number records s values) (more : values ≠ []) (index : Nat) :
    ∃ told w' s', s.Advanced (values.take n).length s' ∧
      w'.Feeds source count n id number (records ++ (values.take n).map Value.shown) s'
        (values.drop n) ∧
      starts told = [.batch source count index] ∧
      round e action sink throws loop? index frame w =
        after told (.done (.next (Iteration.bind loop? .unbounded index frame)) w') := by
  have bound := (keeps_bind loop? .unbounded index frame).control.trans same
  obtain ⟨w', s', advanced, left, ran⟩ := h.body_batch bound feeds more
  have ended := h.round_eq feeds.running rfl bound ran
  rw [Iteration.conclude, h.describe bound (by decide)] at ended
  exact ⟨_, w', s', advanced, left, rfl, ended⟩

/-- The round that finds nothing is the last one. -/
theorem round_none (h : control.Drains action source count) (same : frame.control = control)
    (feeds : w.Feeds source count n id number records s []) (positive : 0 < n) (index : Nat) :
    ∃ told w' s', s.Advanced 0 s' ∧ w'.Feeds source count n id number records s' [] ∧
      starts told = [.batch source count index] ∧
      round e action sink throws loop? index frame w =
        after told (.done (.stop (.ok true) (Iteration.bind loop? .unbounded index frame)) w') := by
  have bound := (keeps_bind loop? .unbounded index frame).control.trans same
  obtain ⟨w', s', f, kind, advanced, left, ran⟩ := h.body_none bound feeds positive
  have caught : Plan.draining.policy.classify f throws = .terminate .noSuchElement := by
    simp [Policy.classify, Plan.draining, FailureClass.covers, kind]
  have ended := h.round_eq feeds.running rfl bound ran
  rw [Iteration.conclude, Iteration.settle, caught] at ended
  exact ⟨_, w', s', advanced, left, rfl, ended⟩

/-- All rounds: one for each batch, and one that finds nothing. -/
theorem loop_eq (h : control.Drains action source count) (positive : 0 < n) {limit : Nat}
    (enough : values.length ⌈/⌉ n < limit)
    (feeds : w.Feeds source count n id number records s values) (same : frame.control = control)
    (index : Nat) :
    ∃ told w' s' left,
      loop Iterations.unbounded.has (round e action sink throws loop?) (.ok true) limit index frame w =
        after told (.done (.ok true, left) w') ∧
      starts told = (List.range' index (values.length ⌈/⌉ n + 1)).map (Event.batch source count) ∧
      s.Advanced values.length s' ∧
      w'.Feeds source count n id number (records ++ values.map Value.shown) s' [] ∧
      Keeps (LoopVariable.Covers loop?) frame [] left := by
  -- The induction is on the rounds to come; the values go down by a batch in each of them.
  induction limit generalizing index records s values frame w with
  | zero => omega
  | succ limit ih =>
    have kept := keeps_bind loop? .unbounded index frame
    rw [loop_succ rfl]
    by_cases more : values = []
    · subst more
      obtain ⟨told, w', s', advanced, left, started, went⟩ := h.round_none same feeds positive index
      refine ⟨told, w', s', _, by rw [went, bind_after, bind_done], ?_, advanced,
        by simpa using left, kept⟩
      rw [started, List.length_nil, zero_ceilDiv]
      rfl
    · obtain ⟨told, w₁, s₁, advanced, left, started, went⟩ := h.round_batch same feeds more index
      have fewer : (values.drop n).length ⌈/⌉ n + 1 = values.length ⌈/⌉ n :=
        List.length_drop ▸ ceilDiv_sub_add_one positive (List.length_pos_iff.mpr more)
      obtain ⟨later, w', s', last, ended, rest, further, drained, kept'⟩ :=
        ih (by omega) left (kept.control.trans same) (index + 1)
      refine ⟨told ++ later, w', s', last, ?_, ?_, ?_, ?_, ?_⟩
      · rw [went, bind_after, bind_done, after_append]
        exact congrArg (after told) ended
      · rw [starts_append, started, rest, fewer, List.range'_succ]
        rfl
      · have whole : (values.take n).length + (values.drop n).length = values.length := by
          rw [← List.length_append, List.take_append_drop]
        exact whole ▸ advanced.trans further
      · rwa [List.append_assoc, ← List.map_append, List.take_append_drop] at drained
      · exact kept.trans kept'

/-- The whole action: its plan, its rounds, and the end of its loop. -/
theorem carryOut_eq {told : List (Event × World)}
    {left : Frame} {w' : World}
    (ran : loop Iterations.unbounded.has
      (round e action sink throws (some (.save frame.vars action))) (.ok true) e.limit 0 frame w =
        after told (.done (.ok true, left) w')) :
    Action.carryOut Command.perform e ⟨action, sink, throws⟩ (.draining action) frame w =
      after (told ++ [(⟨[], .finished (.ok true)⟩, w')])
        (.done (.ok true, Iteration.restore (some (.save frame.vars action)) left) w') := by
  have saved : Iteration.saved? action .draining frame.vars = some (.save frame.vars action) := rfl
  have all : Iteration.all ⟨action, sink, throws⟩ action .draining (body e action sink throws) e.limit
      frame w = after (told ++ [(⟨[], .finished (.ok true)⟩, w')])
        (.done (.ok true, Iteration.restore (some (.save frame.vars action)) left) w') := by
    simp only [Iteration.all, saved]
    exact (congrArg (Course.bind · _) ran).trans (by rw [bind_after, after_append]; rfl)
  rw [Action.carryOut, Plan.resolve_draining]
  exact all

/-- The action writes to its caller, and is not repeated in the background. -/
theorem invoke_eq (h : control.Drains action source count) (same : frame.control = control)
    {told : List (Event × World)} {left : Frame} {w' : World}
    (ran : Action.carryOut Command.perform e ⟨action, sink, throws⟩ (.draining action) frame
      (w.count "actions.executed") = after told (.done (.ok true, left) w')) :
    Action.invoke Command.perform e ⟨action, sink, throws⟩ frame w =
      after ((⟨[], .invoked (.draining action)⟩, w.count "actions.executed") ::
        told.map fun e => (e.1.under (.action ⟨.draining action, .caller⟩), e.2))
        (.done (.ok true, left) w') := by
  have alone : Action.schedule (.draining action) left w' = w' := by
    rw [Action.schedule, Plan.resolve_draining]
    rfl
  have through : Action.invokeThrough Command.perform e ⟨action, sink, throws⟩ (.draining action)
      .caller frame (w.count "actions.executed") =
      after (told.map fun e => (e.1.under (.action ⟨.draining action, .caller⟩), e.2))
        (.done (.ok true, left) w') := by
    simp only [Action.invokeThrough, Action.through, Outlet.sink, ran, under_after, bind_after]
    exact congrArg (fun w => after _ (.done _ w)) alone
  rw [Action.invoke, same, h.read, World.tell_eq, bind_after, bind_done,
    Outlet.resolve_caller rfl rfl, bind_done]
  exact congrArg (after [_]) through

end ControlFile.Drains

theorem World.Feeds.counted {w : World} {source count : String} {n id number : Nat}
    {records : List String} {s : RecordStream} {values : List Value}
    (h : w.Feeds source count n id number records s values) (name : String) :
    (w.count name).Feeds source count n id number records s values :=
  ⟨h.running, h.known, ⟨h.bench.named, h.bench.unnamed, h.bench.counted, h.bench.stream,
    h.bench.holds, h.bench.selected, h.bench.storage⟩⟩

/-- An action that inserts batches of `n` records of a stream until there is none comes to its end,
and succeeds. It has run its command once for each batch and once more, the storage has every record
that was left, once and behind its own, the stream stands at its end, and all variables are as they
were. -/
theorem stream_is_drained {control : ControlFile} {action source count : String}
    {n id number : Nat} {records : List String} {s : RecordStream} {values : List Value} {w : World}
    (drains : control.Drains action source count) (positive : 0 < n)
    (feeds : w.Feeds source count n id number records s values) (bound : Nat)
    (enough : values.length ⌈/⌉ n + 1 < bound) (sink : Sink) (throws : Bool) (vars : Variables)
    (opened : List String) :
    ∃ told left w' s',
      Action.runner Command.perform bound ⟨action, sink, throws⟩ ⟨control, vars, opened⟩ w =
        after told (.done (.ok true, left) w') ∧
      starts told = (List.range (values.length ⌈/⌉ n + 1)).map (fun index =>
        (Event.batch source count index).under (.action ⟨.draining action, .caller⟩)) ∧
      w'.Feeds source count n id number (records ++ values.map w.bench.display) s' [] ∧
      s'.position = s.position + values.length ∧
      ∀ x, left.vars.get? x = vars.get? x := by
  obtain ⟨bound, rfl⟩ : ∃ m, bound = m + 1 := ⟨bound - 1, by omega⟩
  obtain ⟨bytes, _, read⟩ := feeds.bench.holds.readable
  have shown : values.map w.bench.display = values.map Value.shown :=
    List.map_congr_left (read.display w.bench.objects)
  obtain ⟨told, w', s', left, ran, started, ⟨taken, rfl⟩, drained, kept⟩ :=
    @ControlFile.Drains.loop_eq _ _ _ _ _ _ _ _ _ _ (Action.engine Command.perform bound) sink throws
      (some (.save vars action)) ⟨control, vars, opened⟩ _ drains positive bound (by omega)
      (feeds.counted "actions.executed") rfl 0
  refine ⟨_, _, w', _, drains.invoke_eq rfl (ControlFile.Drains.carryOut_eq ran), ?_, shown ▸ drained, rfl, ?_⟩
  · have ends : starts [(⟨[], .finished (.ok true)⟩, w')] = [] := rfl
    have first : ∀ {d : Descriptor} {w : World} {told : List (Event × World)},
        starts ((⟨[], .invoked d⟩, w) :: told) = starts told := rfl
    rw [first, starts_under, starts_append, ends, List.append_nil, started, List.map_map,
      List.range_eq_range']
    rfl
  · intro x
    -- The loop restores what it binds, and nothing else has changed.
    refine (@get?_restore action .draining vars left x).trans ?_
    split
    · rfl
    · rename_i free
      have free : ¬ LoopVariable.Covers (some (.save vars action)) x := by
        simpa [LoopVariable.Covers, LoopVariable.save, Plan.draining, Iterations.binds] using free
      exact Decidable.byContradiction fun differs => by
        obtain ⟨_, none, _⟩ := kept.changed x free differs
        cases none

def drainage : ControlFile := .ofList [("a", "operationExecute"), ("a.param.1", "Insert"),
  ("a.param.2", "s"), ("a.param.3", "2"), ("a.repeatUntilException", "NoSuchElement")]

theorem drains_drainage : drainage.Drains "a" "s" "2" where
  target := ⟨_, rfl, Placeholder.closed_of_not_mem (by decide), by decide +kernel⟩
  arguments := ⟨⟨_, rfl, Placeholder.closed_of_not_mem (by decide), by decide +kernel⟩,
    ⟨_, rfl, Placeholder.closed_of_not_mem (by decide), by decide +kernel⟩,
    ⟨_, rfl, Placeholder.closed_of_not_mem (by decide), by decide +kernel⟩, rfl⟩
  until_ := rfl
  only m other := by
    cases m with
    | repeatUntil => exact absurd rfl other
    | _ => rfl

def reservoir : World :=
  let w := World.fresh Command.withLog ⟨[], []⟩ ⟨0, 0⟩
    ((FileTree.bare ["work"]).addNode ["work", "f"] (.file (Text.toBytes "x\ny\n\nz")))
  { w with bench := { w.bench with
      instances := .ofList [("s", .object 0)]
      objects := ⟨[.stream (.fresh "f" .text)]⟩
      storages := [.memory ["w"] none]
      running := [0]
      selected := some 0 } }

theorem records_reservoir : RecordType.text.Records (Text.toBytes "x\ny\n\nz")
    [.text "x", .text "y", .text "z"] := by
  have record : ∀ {bytes : Bytes} {line text : String} {values : List Value}, bytes ≠ [] →
      Text.ofBytes? (RecordStream.lineOf bytes) = some line → Text.trim line = text → text ≠ "" →
      RecordType.text.Records (bytes.drop (RecordStream.lineOf bytes).length) values →
      RecordType.text.Records bytes (.text text :: values) := by
    rintro bytes line _ values more decoded rfl written rest
    exact .record more decoded written rfl rest
  refine record (by decide) (show _ = some "x\n" by decide +kernel) (by decide +kernel) (by decide) ?_
  refine record (by decide) (show _ = some "y\n" by decide +kernel) (by decide +kernel) (by decide) ?_
  refine .blank (by decide) (show _ = some "\n" by decide +kernel) (by decide +kernel) ?_
  refine record (by decide) (show _ = some "z" by decide +kernel) (by decide +kernel) (by decide) ?_
  exact .none

theorem feeds_reservoir : reservoir.Feeds "s" "2" 2 0 0 ["w"] (.fresh "f" .text)
    [.text "x", .text "y", .text "z"] where
  running := rfl
  known := by decide +kernel
  bench := {
    named := rfl
    unnamed := rfl
    counted := by decide +kernel
    stream := rfl
    holds := ⟨rfl, Text.toBytes "x\ny\n\nz", by with_unfolding_all rfl, records_reservoir⟩
    selected := ⟨0, rfl⟩
    storage := rfl }

theorem stream_is_drained_reservoir : ∃ told left w' s',
    Action.runner Command.perform 5 ⟨"a", .text, false⟩ (.fresh drainage .empty) reservoir =
      after told (.done (.ok true, left) w') ∧
    (starts told).length = 3 ∧
    w'.bench.storage? 0 = some (.memory ["w", "x", "y", "z"] none) ∧
    w'.bench.objects.get? 0 = some (.stream s') ∧ s'.position = 3 ∧
    left.vars.get? "a" = none ∧ left.vars.get? "a_iteration" = none := by
  obtain ⟨told, left, w', s', ran, started, drained, position, kept⟩ :=
    stream_is_drained drains_drainage (by decide) feeds_reservoir 5 (by decide) .text false .empty []
  refine ⟨told, left, w', s', ran, ?_, drained.bench.storage, drained.bench.stream, position,
    kept _, kept _⟩
  rw [started]
  decide

end Runbook
