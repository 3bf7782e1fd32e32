import Runbook.Proofs.Replacing
/-! Commands that fail leave the bench as it was. They are taken apart into the steps they consist
of, with nothing to undo a step once a later one fails: on the way to a failure only new objects are
made, which nothing refers to. -/
namespace Runbook

section Steps

variable {ε σ α β : Type} {kept : σ → σ → Prop}

/-- Steps come to what a change comes to that is made as a whole. Where they fail, no more has
happened on the way than is allowed. -/
structure Agrees (kept : σ → σ → Prop) (steps : EStateM ε σ α) (whole : σ → Except ε (α × σ)) :
    Prop where
  done : ∀ {s a after}, whole s = .ok (a, after) → steps s = .ok a after
  failed : ∀ {s f}, whole s = .error f → ∃ left, steps s = .error f left ∧ kept s left

def Within (kept : σ → σ → Prop) (whole : σ → Except ε (α × σ)) : Prop :=
  ∀ {s a after}, whole s = .ok (a, after) → kept s after

def atOnce (whole : σ → Except ε (α × σ)) : EStateM ε σ α := fun s =>
  match whole s with
  | .ok (a, after) => .ok a after
  | .error f => .error f s

theorem agrees_atOnce (refl : ∀ s, kept s s) (whole : σ → Except ε (α × σ)) :
    Agrees kept (atOnce whole) whole where
  done h := by simp only [atOnce, h]
  failed {s f} h := ⟨s, by simp only [atOnce, h], refl s⟩

theorem agrees_pure (a : α) : Agrees kept (pure a : EStateM ε σ α) fun s => .ok (a, s) where
  done h := by
    cases h
    rfl
  failed h := by cases h

/-- Steps after others: the failure of a later one leaves what the earlier ones have done. -/
theorem Agrees.bind (trans : ∀ {s t u}, kept s t → kept t u → kept s u)
    {first : EStateM ε σ α} {next : α → EStateM ε σ β} {whole : σ → Except ε (α × σ)}
    {rest : α → σ → Except ε (β × σ)} (one : Agrees kept first whole) (within : Within kept whole)
    (more : ∀ a, Agrees kept (next a) (rest a)) :
    Agrees kept (first >>= next) fun s => whole s >>= fun r => rest r.1 r.2 where
  done h := by
    obtain ⟨⟨a, after⟩, whole, later⟩ := bind_eq_ok h
    simp only [Bind.bind, EStateM.bind, one.done whole]
    exact (more a).done later
  failed {s f} h := by
    cases made : whole s with
    | error g =>
      obtain rfl : g = f := by simpa [made, Bind.bind, Except.bind] using h
      obtain ⟨left, failed, fine⟩ := one.failed made
      exact ⟨left, by simp only [Bind.bind, EStateM.bind, failed], fine⟩
    | ok r =>
      obtain ⟨a, after⟩ := r
      rw [made] at h
      obtain ⟨left, failed, fine⟩ := (more a).failed h
      refine ⟨left, ?_, trans (within made) fine⟩
      simp only [Bind.bind, EStateM.bind, one.done made]
      exact failed

/-- Steps after others that never fail. -/
theorem Agrees.bind_sure {first : EStateM ε σ α} {next : α → EStateM ε σ β}
    {whole : σ → Except ε (α × σ)} (one : Agrees kept first whole) (rest : α → σ → β × σ)
    (sure : ∀ a s, next a s = .ok (rest a s).1 (rest a s).2) :
    Agrees kept (first >>= next) fun s => (whole s).map fun r => rest r.1 r.2 where
  done {s b after} h := by
    cases made : whole s with
    | error f => simp [made, Except.map] at h
    | ok r =>
      obtain ⟨a, mid⟩ := r
      have last : rest a mid = (b, after) := by simpa [made, Except.map] using h
      simp only [Bind.bind, EStateM.bind, one.done made, sure, last]
  failed {s f} h := by
    cases made : whole s with
    | ok r => simp [made, Except.map] at h
    | error g =>
      obtain rfl : g = f := by simpa [made, Except.map] using h
      obtain ⟨left, failed, fine⟩ := one.failed made
      exact ⟨left, by simp only [Bind.bind, EStateM.bind, failed], fine⟩

/-- A question changes nothing. -/
theorem within_question (refl : ∀ s, kept s s) (question : σ → Except ε α) :
    Within kept fun s => (question s).map fun a => (a, s) := by
  intro s a after asked
  cases answered : question s with
  | error f => simp [answered, Except.map] at asked
  | ok a' =>
    obtain ⟨-, rfl⟩ : a' = a ∧ s = after := by simpa [answered, Except.map] using asked
    exact refl s

theorem Agrees.congr {steps : EStateM ε σ α} {whole whole' : σ → Except ε (α × σ)}
    (agrees : Agrees kept steps whole) (same : ∀ s, whole s = whole' s) :
    Agrees kept steps whole' := funext same ▸ agrees

theorem Within.bind (trans : ∀ {s t u}, kept s t → kept t u → kept s u)
    {whole : σ → Except ε (α × σ)} {rest : α → σ → Except ε (β × σ)} (one : Within kept whole)
    (more : ∀ a, Within kept (rest a)) :
    Within kept fun s => whole s >>= fun r => rest r.1 r.2 := by
  intro s b last done
  obtain ⟨⟨a, after⟩, first, later⟩ := bind_eq_ok done
  exact trans (one first) (more a later)

end Steps

namespace Objects

/-- Every object is still there with its state. There may be new ones. -/
def Extends (o o' : Objects) : Prop := ∀ id object, o.get? id = some object → o'.get? id = some object

theorem Extends.refl (o : Objects) : o.Extends o := fun _ _ cell => cell

theorem Extends.trans {o o' o'' : Objects} (first : o.Extends o') (second : o'.Extends o'') :
    o.Extends o'' := fun id object cell => second id object (first id object cell)

theorem extends_add (o : Objects) (object : Object) : o.Extends (o.add object).2 := by
  intro id old cell
  have bound : id < o.cells.length := (List.getElem?_eq_some_iff.mp cell).1
  rw [get?_add_old o object bound, cell]

end Objects

namespace Signature

open Objects (Extends extends_add)

variable {f : Factory} {instances : Instances}

/-- A constructor makes one object at most. -/
theorem Constructor.within_construct (c : Constructor) (args : List Value) :
    Within Extends fun objects => c.construct objects args := by
  intro objects v after built
  have made : after = objects ∨ ∃ object, after = (objects.add object).2 := by
    unfold construct at built
    split at built <;> try split at built
    all_goals cases built
    all_goals first | exact .inl rfl | exact .inr ⟨_, rfl⟩
  obtain rfl | ⟨object, rfl⟩ := made
  · exact .refl _
  · exact extends_add _ _

namespace Factory

theorem within_construct (f : Factory) (name : String) (args : List Value) :
    Within Extends fun objects => f.construct objects name args := by
  intro objects v after built
  unfold construct at built
  split at built
  · cases built
  · rename_i c known
    cases made : c.construct objects args with
    | error refusal => simp [made, Except.mapError] at built
    | ok r =>
      obtain rfl : r = (v, after) := by simpa [made, Except.mapError] using built
      exact c.within_construct args made

theorem within_resolve (f : Factory) (instances : Instances) (name : String) :
    Within Extends fun objects => f.resolve instances objects name := by
  intro objects v after resolved
  unfold resolve at resolved
  split at resolved
  · cases resolved
    exact .refl _
  · split at resolved
    · exact f.within_construct name [] resolved
    · split at resolved
      · cases resolved
        exact .refl _
      · cases resolved

mutual

/-- Evaluates an expression step by step: an object that has been made for an argument stays when
a later argument fails. -/
def evaluation (f : Factory) (instances : Instances) :
    Expression → EStateM BuildFault Objects Value
  | .text s => return .text s
  | .int n => return .int n
  | .float x => return .float x
  | .bool b => return .bool b
  | .null => return .null
  | .name s => atOnce fun objects => f.resolve instances objects s
  | .call s arguments => do
    let values ← evaluations f instances arguments
    atOnce fun objects => f.construct objects s values

def evaluations (f : Factory) (instances : Instances) :
    List Expression → EStateM BuildFault Objects (List Value)
  | [] => return []
  | e :: rest => do
    let v ← evaluation f instances e
    let vs ← evaluations f instances rest
    return v :: vs

end

/-- An argument that needs no object. -/
theorem agrees_literal {α : Type} (a : α) {whole : Objects → Except BuildFault (α × Objects)}
    (same : ∀ objects, whole objects = .ok (a, objects)) :
    Agrees Extends (pure a : EStateM BuildFault Objects α) whole ∧ Within Extends whole := by
  obtain rfl : whole = fun objects => .ok (a, objects) := funext same
  refine ⟨agrees_pure a, fun {objects} b after made => ?_⟩
  cases made
  exact .refl _

mutual

theorem evaluation_agrees (f : Factory) (instances : Instances) (e : Expression) :
    Agrees Extends (f.evaluation instances e) (f.evaluate instances e) ∧
      Within Extends (f.evaluate instances e) := by
  match e with
  | .text s | .int n | .float x | .bool b | .null =>
    unfold evaluation
    exact agrees_literal _ fun objects => by unfold evaluate; rfl
  | .name s =>
    have same : f.evaluate instances (.name s) = fun objects => f.resolve instances objects s := by
      funext objects
      unfold evaluate
      rfl
    unfold evaluation
    rw [same]
    exact ⟨agrees_atOnce Extends.refl _, f.within_resolve instances s⟩
  | .call s arguments =>
    obtain ⟨agree, within⟩ := f.evaluations_agree instances arguments
    have same : f.evaluate instances (.call s arguments) = fun objects =>
        f.evaluateAll instances arguments objects >>= fun r => f.construct r.2 s r.1 := by
      funext objects
      unfold evaluate
      rfl
    unfold evaluation
    rw [same]
    exact ⟨agree.bind .trans within fun values => agrees_atOnce Extends.refl _,
      within.bind .trans fun values => f.within_construct s values⟩

theorem evaluations_agree (f : Factory) (instances : Instances) (es : List Expression) :
    Agrees Extends (f.evaluations instances es) (f.evaluateAll instances es) ∧
      Within Extends (f.evaluateAll instances es) := by
  match es with
  | [] =>
    unfold evaluations
    exact agrees_literal _ fun objects => by unfold evaluateAll; rfl
  | e :: rest =>
    obtain ⟨agrees, within⟩ := f.evaluation_agrees instances e
    obtain ⟨agree, withins⟩ := f.evaluations_agree instances rest
    have same : f.evaluateAll instances (e :: rest) = fun objects =>
        f.evaluate instances e objects >>= fun r =>
          f.evaluateAll instances rest r.2 >>= fun q => .ok (r.1 :: q.1, q.2) := by
      funext objects
      rw [evaluateAll]
      rfl
    have listed : ∀ v, Within (ε := BuildFault) Extends fun objects =>
        f.evaluateAll instances rest objects >>= fun q => .ok (v :: q.1, q.2) := fun v =>
      withins.bind .trans fun vs => (agrees_literal (v :: vs) fun _ => rfl).2
    unfold evaluations
    rw [same]
    exact ⟨agrees.bind .trans within fun v => agree.bind .trans withins fun vs => agrees_pure _,
      within.bind .trans listed⟩

end

def building (f : Factory) (instances : Instances) (signature : String) :
    EStateM BuildFault Objects Value := do
  let e ← atOnce fun objects => ((parse signature).mapError .misspelt).map fun e => (e, objects)
  evaluation f instances e

theorem building_agrees (f : Factory) (instances : Instances) (signature : String) :
    Agrees Extends (f.building instances signature)
        (fun objects => f.build instances objects signature) ∧
      Within Extends (fun objects => f.build instances objects signature) := by
  have same : (fun objects => f.build instances objects signature) = fun objects =>
      ((parse signature).mapError .misspelt).map (fun e => (e, objects)) >>= fun r =>
        f.evaluate instances r.1 r.2 := by
    funext objects
    unfold build
    cases (parse signature).mapError BuildFault.misspelt <;> rfl
  have reads : Within Extends fun objects =>
      ((parse signature).mapError BuildFault.misspelt).map fun e => (e, objects) :=
    within_question Extends.refl fun _ => (parse signature).mapError BuildFault.misspelt
  rw [same]
  exact ⟨(agrees_atOnce Extends.refl _).bind .trans reads fun e =>
      (f.evaluation_agrees instances e).1,
    reads.bind .trans fun e => (f.evaluation_agrees instances e).2⟩

end Factory

end Signature

namespace Bench

/-- All is as it was, and every object that was there is, with its state. There may be new ones,
which nothing refers to. -/
structure Kept (b left : Bench) : Prop where
  rest : left = { b with objects := left.objects }
  objects : b.objects.Extends left.objects

theorem Kept.refl (b : Bench) : b.Kept b := ⟨rfl, .refl _⟩

theorem Kept.trans {b b' b'' : Bench} (first : b.Kept b') (second : b'.Kept b'') : b.Kept b'' where
  rest := by
    rw [second.rest, first.rest]
  objects := first.objects.trans second.objects

abbrev Steps := EStateM Failure Bench

namespace Steps

def ask {α : Type} (question : Bench → Except Failure α) : Steps α :=
  atOnce fun b => (question b).map fun a => (a, b)

def instantiate (signature : String) : Steps Value := fun b =>
  match b.factory.building b.instances signature b.objects with
  | .ok v objects => .ok v { b with objects }
  | .error fault objects => .error (fault.toFailure signature) { b with objects }

def make (object : Object) : Steps Value :=
  atOnce fun b => .ok ((b.objects.add object).1, { b with objects := (b.objects.add object).2 })

def add (name : String) (v : Value) : Steps Unit :=
  atOnce fun b => (b.instances.add name v).map fun instances => ((), { b with instances })

def replace (name : String) (v : Value) : Steps (Option Value) :=
  atOnce fun b => .ok (b.instances.get? name, { b with instances := b.instances.set name v })

def remove (name : String) : Steps Value :=
  atOnce fun b => (b.instances.remove name).map fun r => (r.1, { b with instances := r.2 })

def close (v : Value) : Steps Unit :=
  atOnce fun b => .ok ((), { b with objects := b.objects.close v })

def put (id : Nat) (object : Object) : Steps Unit :=
  atOnce fun b => .ok ((), { b with objects := b.objects.set id object })

def remember (o : Operation) : Steps Unit := atOnce fun b => .ok ((), { b with last := some o })

end Steps

end Bench

namespace Command

open Bench.Steps in
/-- The steps of the commands that store, remove and rewind instances and prepare operations. -/
def steps (files : FileTree) : Command → List String → Bench.Steps Bool
  | .namedInstanceAdd, [signature, name] => do
    let v ← instantiate signature
    add name v
    return true
  | .namedInstanceReplace, [signature, name] => do
    let v ← instantiate signature
    if let some previous ← replace name v then close previous
    return true
  | .namedInstanceRemove, [name] => do
    let v ← remove name
    close v
    return true
  | .objectStreamOpen, [path, type, name] => do
    let type ← ask fun _ => RecordType.read type
    let s ← ask fun _ => RecordStream.opened files path type
    let v ← make (.stream s)
    add name v
    return true
  | .objectStreamClose, [name] => do
    let _ ← ask (·.requireStream name)
    let v ← remove name
    close v
    return true
  | .objectStreamReset, [name] => do
    let (id, s) ← ask (·.requireStream name)
    put id (.stream s.reset)
    return true
  | .operationPrepare, type :: args => do
    let o ← ask fun b => Operation.create b.instances b.objects type args
    remember o
    return true
  | _, _ => return false

end Command

namespace Bench

variable (files : FileTree)

theorem instantiate_agrees (signature : String) :
    Agrees Kept (Steps.instantiate signature) (fun b => b.instantiate signature) ∧
      Within Kept (fun b => b.instantiate signature) := by
  have both := fun b : Bench => b.factory.building_agrees b.instances signature
  refine ⟨⟨fun {b v after} made => ?_, fun {b f} made => ?_⟩, fun {b v after} made => ?_⟩
  all_goals
    simp only [instantiate] at made
    split at made
  · rename_i objects built
    cases made
    simp only [Steps.instantiate, (both b).1.done built]
  · cases made
  · cases made
  · rename_i fault built
    cases made
    obtain ⟨left, failed, extends_⟩ := (both b).1.failed built
    exact ⟨{ b with objects := left }, by simp only [Steps.instantiate, failed], rfl, extends_⟩
  · rename_i objects built
    cases made
    exact ⟨rfl, (both b).2 built⟩
  · cases made

theorem ask_agrees {α : Type} (question : Bench → Except Failure α) :
    Agrees Kept (Steps.ask question) (fun b => (question b).map fun a => (a, b)) ∧
      Within Kept fun b => (question b).map fun a => (a, b) :=
  ⟨agrees_atOnce Kept.refl _, within_question Kept.refl question⟩

theorem within_make (object : Object) : Within (ε := Failure) Kept fun b =>
    .ok ((b.objects.add object).1, { b with objects := (b.objects.add object).2 }) := by
  intro b v after made
  cases made
  exact ⟨rfl, b.objects.extends_add object⟩

def whole (change : Bench → Except Failure Bench) (b : Bench) : Except Failure (Bool × Bench) :=
  (change b).map fun after => (true, after)

theorem steps_namedInstanceAdd (signature name : String) :
    Agrees Kept (Command.steps files .namedInstanceAdd [signature, name])
      (whole fun b => b.addInstance signature name) := by
  obtain ⟨agrees, within⟩ := instantiate_agrees signature
  refine (agrees.bind .trans within fun v => (agrees_atOnce Kept.refl _).bind_sure
    (fun _ b => (true, b)) fun _ _ => rfl).congr fun b => ?_
  simp only [whole, addInstance]
  cases b.instantiate signature with
  | error f => rfl
  | ok r =>
    simp only [Bind.bind, Except.bind]
    cases r.2.instances.add name r.1 <;> rfl

theorem steps_namedInstanceReplace (signature name : String) :
    Agrees Kept (Command.steps files .namedInstanceReplace [signature, name])
      (whole fun b => b.replaceInstance signature name) := by
  obtain ⟨agrees, -⟩ := instantiate_agrees signature
  refine (agrees.bind_sure (fun v b => (true, { b with
    instances := b.instances.set name v
    objects := b.objects.release (b.instances.get? name) })) fun v b => ?_).congr fun b => ?_
  · simp only [Steps.replace, atOnce, Bind.bind, EStateM.bind]
    cases b.instances.get? name <;> rfl
  · cases built : b.instantiate signature with
    | error f => simp [whole, replaceInstance, built, Bind.bind, Except.bind, Except.map]
    | ok r =>
      obtain ⟨v, made⟩ := r
      obtain ⟨objects, same⟩ := objects_instantiate built
      obtain rfl : made = { b with objects } := same
      simp [whole, replaceInstance_eq built, Except.map]

theorem steps_namedInstanceRemove (name : String) :
    Agrees Kept (Command.steps files .namedInstanceRemove [name])
      (whole fun b => b.removeInstance name) := by
  refine ((agrees_atOnce Kept.refl _).bind_sure
    (fun v b => (true, { b with objects := b.objects.close v })) fun v b => rfl).congr
      fun b => ?_
  simp only [whole, removeInstance]
  cases b.instances.remove name <;> rfl

theorem steps_objectStreamOpen (path type name : String) :
    Agrees Kept (Command.steps files .objectStreamOpen [path, type, name])
      (whole fun b => b.openStream files path type name) := by
  obtain ⟨typed, typing⟩ := ask_agrees fun _ => RecordType.read type
  have opened := fun type => ask_agrees fun _ => RecordStream.opened files path type
  refine (typed.bind .trans typing fun type => (opened type).1.bind .trans (opened type).2 fun s =>
    (agrees_atOnce Kept.refl _).bind .trans (within_make (.stream s)) fun v =>
      (agrees_atOnce Kept.refl _).bind_sure (fun _ b => (true, b)) fun _ _ => rfl).congr
        fun b => ?_
  simp only [whole, openStream]
  cases RecordType.read type with
  | error f => rfl
  | ok type =>
    simp only [Bind.bind, Except.bind, Except.map]
    cases RecordStream.opened files path type with
    | error f => rfl
    | ok s =>
      simp only
      cases b.instances.add name (b.objects.add (.stream s)).1 <;> rfl

theorem steps_objectStreamClose (name : String) :
    Agrees Kept (Command.steps files .objectStreamClose [name])
      (whole fun b => b.closeStream name) := by
  obtain ⟨found, finding⟩ := ask_agrees (·.requireStream name)
  refine (found.bind .trans finding fun _ =>
    steps_namedInstanceRemove files name).congr fun b => ?_
  simp only [whole, closeStream]
  cases b.requireStream name <;> rfl

theorem steps_objectStreamReset (name : String) :
    Agrees Kept (Command.steps files .objectStreamReset [name])
      (whole fun b => b.resetStream name) := by
  obtain ⟨found, -⟩ := ask_agrees (·.requireStream name)
  refine (found.bind_sure (fun stream b =>
    (true, { b with objects := b.objects.set stream.1 (.stream stream.2.reset) }))
      fun stream b => rfl).congr fun b => ?_
  simp only [whole, resetStream]
  cases b.requireStream name <;> rfl

theorem steps_operationPrepare (type : String) (args : List String) :
    Agrees Kept (Command.steps files .operationPrepare (type :: args))
      (whole fun b => (b.prepare type args).map Prod.snd) := by
  refine ((agrees_atOnce Kept.refl _).bind_sure
    (fun o b => (true, { b with last := some o })) fun o b => rfl).congr fun b => ?_
  simp only [whole, prepare]
  cases Operation.create b.instances b.objects type args <;> rfl

end Bench

open Course

def Command.storing : List Command :=
  [.namedInstanceAdd, .namedInstanceReplace, .namedInstanceRemove, .objectStreamOpen,
    .objectStreamClose, .objectStreamReset, .operationPrepare]

/-- Such a command asks the bench for a change that its steps come to, or has the wrong number of
arguments. -/
theorem Command.storing_cases {c : Command} (among : c ∈ storing) (args : List String)
    (files : FileTree) :
    (Request.read c args = none ∧ c.steps files args = pure false) ∨
      ∃ request change, Request.read c args = some (.bench request) ∧
        (∀ b, Bench.carryOut files b request = b.settleSilent (change b)) ∧
        Agrees Bench.Kept (c.steps files args) (Bench.whole change) := by
  simp only [storing, List.mem_cons, List.not_mem_nil, or_false] at among
  rcases among with rfl | rfl | rfl | rfl | rfl | rfl | rfl
  · match args with
    | [signature, name] =>
      exact .inr ⟨_, _, rfl, fun _ => rfl, Bench.steps_namedInstanceAdd files signature name⟩
    | [] | [_] | _ :: _ :: _ :: _ => exact .inl ⟨rfl, rfl⟩
  · match args with
    | [signature, name] =>
      exact .inr ⟨_, _, rfl, fun _ => rfl, Bench.steps_namedInstanceReplace files signature name⟩
    | [] | [_] | _ :: _ :: _ :: _ => exact .inl ⟨rfl, rfl⟩
  · match args with
    | [name] => exact .inr ⟨_, _, rfl, fun _ => rfl, Bench.steps_namedInstanceRemove files name⟩
    | [] | _ :: _ :: _ => exact .inl ⟨rfl, rfl⟩
  · match args with
    | [path, type, name] =>
      exact .inr ⟨_, _, rfl, fun _ => rfl, Bench.steps_objectStreamOpen files path type name⟩
    | [] | [_] | [_, _] | _ :: _ :: _ :: _ :: _ => exact .inl ⟨rfl, rfl⟩
  · match args with
    | [name] => exact .inr ⟨_, _, rfl, fun _ => rfl, Bench.steps_objectStreamClose files name⟩
    | [] | _ :: _ :: _ => exact .inl ⟨rfl, rfl⟩
  · match args with
    | [name] => exact .inr ⟨_, _, rfl, fun _ => rfl, Bench.steps_objectStreamReset files name⟩
    | [] | _ :: _ :: _ => exact .inl ⟨rfl, rfl⟩
  · match args with
    | type :: args =>
      refine .inr ⟨_, _, rfl, fun b => ?_, Bench.steps_operationPrepare files type args⟩
      simp only [Bench.carryOut, Bench.withOperation]
      cases b.prepare type args <;> rfl
    | [] => exact .inl ⟨rfl, rfl⟩

theorem World.sayLines_eq (w : World) (sink : Sink) (lines : List String) :
    ∃ told, w.sayLines sink lines = after told (.done () (w.writeLines sink lines)) := by
  obtain ⟨told, said, -⟩ := w.sayLines_told sink lines
  exact ⟨told, said⟩

@[simp] theorem World.bench_writeLines (w : World) (sink : Sink) (lines : List String) :
    (w.writeLines sink lines).bench = w.bench := by
  induction lines generalizing w with
  | nil => rfl
  | cons line rest ih => exact (ih _).trans (w.bench_write sink _)

/-- A command that stores, removes or rewinds an instance or prepares an operation comes to its end
at once. Unless it succeeds, the bench is as it was: the instances with the state of all objects,
the last operation, the storages and the counters. Nothing is undone for that: its steps, of which
each leaves the bench to the next one as it is then, come to the same answer and, on success, to the
same bench; where one of them fails, all that the earlier ones have done is to make new objects. -/
theorem refused_changes_nothing (e : Engine) (c : Command) (args : List String) (sink : Sink)
    (w : World) (among : c ∈ Command.storing) :
    ∃ told answer w' left,
      Command.perform e c args sink w = after told (.done answer w') ∧
      (answer ≠ .ok true → w'.bench = w.bench) ∧
      (c.steps w.files args w.bench =
        match answer with
        | .ok success => .ok success left
        | .error f => .error f left) ∧
      (answer = .ok true → w'.bench = left) ∧
      (answer ≠ .ok true → w.bench.Kept left) := by
  rcases Command.storing_cases among args w.files with ⟨wrong, steps⟩ | ⟨request, change, read,
    settles, agrees⟩
  · obtain ⟨told, said⟩ := w.sayLines_eq sink (c.wrongCount args.length)
    refine ⟨told, .ok false, w.writeLines sink (c.wrongCount args.length), w.bench, ?_, ?_, ?_, ?_, ?_⟩
    · simp only [Command.perform, wrong, said, Course.map, bind_after, bind_done]
    · simp
    · rw [steps]
      rfl
    · simp
    · exact fun _ => .refl _
  · have carried := settles w.bench
    cases changed : change w.bench with
    | error f =>
      obtain ⟨left, failed, kept⟩ := agrees.failed (s := w.bench) (f := f) (by
        rw [Bench.whole, changed]
        rfl)
      refine ⟨[], .error f, w, left, ?_, fun _ => rfl, failed, by simp, fun _ => kept⟩
      simp only [Command.perform, read, Request.perform, Request.onBench, carried, changed]
      rfl
    | ok made =>
      have done : c.steps w.files args w.bench = .ok true made := agrees.done (by
        rw [Bench.whole, changed]
        rfl)
      refine ⟨[(⟨[], .wrote sink ""⟩, { w with bench := made }.write sink "")], .ok true,
        { w with bench := made }.write sink "", made, ?_, by simp, done, fun _ => by simp, by simp⟩
      simp only [Command.perform, read, Request.perform, Request.onBench, carried, changed]
      rfl

theorem refused_changes_nothing_taken :
    let w : World := { World.fresh Command.withLog ⟨[], []⟩ ⟨0, 0⟩
        ((FileTree.bare ["work"]).addNode ["work", "f"] (.file [])) with
      bench := { Bench.fresh with
        instances := .ofList [("s", .object 0)], objects := ⟨[.collection [.null]]⟩ } }
    Command.objectStreamOpen ∈ Command.storing ∧
      ∃ told f w' left,
        Command.perform Engine.standard .objectStreamOpen ["f", "Text", "s"] .text w =
          after told (.done (.error f) w') ∧
        w'.bench = w.bench ∧
        Command.steps w.files .objectStreamOpen ["f", "Text", "s"] w.bench = .error f left ∧
        w.bench.Kept left ∧ left.objects.cells.length = 2 := by
  intro w
  obtain ⟨told, answer, w', left, course, unchanged, steps, -, kept⟩ :=
    refused_changes_nothing Engine.standard .objectStreamOpen ["f", "Text", "s"] .text w (by decide)
  have counts : (match Command.steps w.files .objectStreamOpen ["f", "Text", "s"] w.bench with
      | .ok _ _ => 0
      | .error _ left => left.objects.cells.length) = 2 := by decide +kernel
  rw [steps] at counts
  cases answer with
  | ok success => cases counts
  | error f =>
    exact ⟨by decide, told, f, w', left, course, unchanged (by simp), steps, kept (by simp), counts⟩

end Runbook
