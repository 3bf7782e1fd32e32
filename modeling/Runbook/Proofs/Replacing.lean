import Runbook.Command.Perform
import Runbook.Proofs.Inversion
import Runbook.Proofs.SignatureText
import Runbook.Proofs.Working
/-! Instances that are replaced. The value that was stored before is closed after the new one has
been stored; what is shown of the new one is what it was, unless the old object is part of it and
has something to close. -/
namespace Runbook

open Course

/-- An object is part of a value: in one of its lists, or in an object that is part of it. -/
inductive Objects.PartOf (o : Objects) (id : Nat) : Value → Prop
  | here : PartOf o id (.object id)
  | item {items : List Value} {v : Value} (member : v ∈ items) (part : PartOf o id v) :
      PartOf o id (.list items)
  | inside {other : Nat} {items : List Value} {v : Value}
      (cell : o.get? other = some (.collection items)) (member : v ∈ items)
      (part : PartOf o id v) : PartOf o id (.object other)

section Display

variable {f g : Nat → String} {P : Value → Prop}

mutual

/-- The text of a value is made of those of the objects in it. -/
theorem Value.displayWith_congr (items : ∀ {vs v}, v ∈ vs → P (.list vs) → P v)
    (objects : ∀ id, P (.object id) → f id = g id) :
    ∀ v, P v → Value.displayWith f v = Value.displayWith g v
  | .null, _ | .bool _, _ | .int _, _ | .float _, _ | .text _, _ => by
    simp only [Value.displayWith]
  | .object id, holds => by
    simp only [Value.displayWith]
    exact objects id holds
  | .list vs, holds => by
    simp only [Value.displayWith]
    rw [Value.displayItems_congr items objects vs fun v member => items member holds]

theorem Value.displayItems_congr (items : ∀ {vs v}, v ∈ vs → P (.list vs) → P v)
    (objects : ∀ id, P (.object id) → f id = g id) :
    ∀ vs, (∀ v ∈ vs, P v) → Value.displayItems f vs = Value.displayItems g vs
  | [], _ => by simp only [Value.displayItems]
  | [v], all => by
    simp only [Value.displayItems]
    exact Value.displayWith_congr items objects v (all v List.mem_cons_self)
  | v :: w :: rest, all => by
    simp only [Value.displayItems]
    rw [Value.displayWith_congr items objects v (all v List.mem_cons_self),
      Value.displayItems_congr items objects (w :: rest) fun u member =>
        all u (List.mem_cons_of_mem v member)]

end

variable {o : Objects} {id : Nat} {v : Value}

theorem Objects.text_set (object : Object) (depth other : Nat)
    (apart : ¬ o.PartOf id (.object other)) :
    (o.set id object).text depth other = o.text depth other := by
  induction depth generalizing other with
  | zero => rfl
  | succ depth ih =>
    have different : other ≠ id := by
      rintro rfl
      exact apart .here
    rw [Objects.text, Objects.text, get?_set_other o object different]
    cases cell : o.get? other with
    | none => rfl
    | some kept =>
      cases kept with
      | counter | stream => rfl
      | collection items =>
        refine Value.displayWith_congr (P := fun v => ¬ o.PartOf id v)
          (fun member free part => free (.item member part)) (fun next free => ih next free) _ ?_
        rintro (_ | ⟨member, part⟩)
        exact apart (.inside cell member part)

/-- A value looks the same whatever becomes of an object that is no part of it. -/
theorem Objects.display_set (object : Object) (apart : ¬ o.PartOf id v) :
    (o.set id object).display v = o.display v := by
  have size : (o.set id object).cells.length = o.cells.length := by simp [set]
  unfold display
  rw [size]
  exact Value.displayWith_congr (P := fun v => ¬ o.PartOf id v)
    (fun member free part => free (.item member part))
    (fun other free => text_set object _ other free) v apart

end Display

namespace Objects

variable {o : Objects} {v : Value} {previous? : Option Value}

def release (o : Objects) (previous? : Option Value) : Objects :=
  match previous? with
  | some previous => o.close previous
  | none => o

/-- Closing a value leaves another one alone: it is no object, it has nothing to close, or it is no
part of the other one. -/
def Spares (o : Objects) (previous? : Option Value) (v : Value) : Prop :=
  ∀ id object, previous? = some (.object id) → o.get? id = some object →
    object.closed = object ∨ ¬ o.PartOf id v

theorem set_self {id : Nat} {object : Object} (cell : o.get? id = some object) :
    o.set id object = o := by
  obtain ⟨cells⟩ := o
  have there : cells[id]? = some object := cell
  obtain ⟨bound, rfl⟩ := List.getElem?_eq_some_iff.mp there
  simp only [set, List.set_getElem_self]

/-- Closing changes one object at most. -/
theorem release_cases (o : Objects) (previous? : Option Value) :
    o.release previous? = o ∨
      ∃ id object, previous? = some (.object id) ∧ o.get? id = some object ∧
        o.release previous? = o.set id object.closed := by
  rcases previous? with _ | previous
  · exact .inl rfl
  · cases previous with
    | object id =>
      cases cell : o.get? id with
      | none => exact .inl (by simp only [release, close, cell])
      | some object => exact .inr ⟨id, object, rfl, cell, by simp only [release, close, cell]⟩
    | _ => exact .inl rfl

theorem get?_release_other {id : Nat} (other : previous? ≠ some (.object id)) :
    (o.release previous?).get? id = o.get? id := by
  rcases o.release_cases previous? with same | ⟨closed, object, known, _, same⟩
  · rw [same]
  · have apart : id ≠ closed := by
      rintro rfl
      exact other known
    rw [same, get?_set_other o object.closed apart]

theorem get?_release_same (id : Nat) :
    (o.release (some (.object id))).get? id = (o.get? id).map Object.closed := by
  cases cell : o.get? id with
  | none => simp only [release, close, cell, Option.map_none]
  | some object =>
    have bound : id < o.cells.length := (List.getElem?_eq_some_iff.mp cell).1
    simp only [release, close, cell, Option.map_some]
    exact get?_set_same o id object.closed bound

theorem display_release (spares : o.Spares previous? v) :
    (o.release previous?).display v = o.display v := by
  rcases o.release_cases previous? with same | ⟨id, object, known, cell, same⟩
  · rw [same]
  · rw [same]
    rcases spares id object known cell with idle | apart
    · rw [idle, set_self cell]
    · exact display_set object.closed apart

end Objects

namespace Bench

variable {b made : Bench} {signature name : String} {v : Value}

/-- Replacing an instance closes the value that the name had. -/
theorem replaceInstance_eq (built : b.instantiate signature = .ok (v, made)) :
    b.replaceInstance signature name = .ok { made with
      instances := b.instances.set name v
      objects := made.objects.release (b.instances.get? name) } := by
  obtain ⟨objects, same⟩ := objects_instantiate built
  simp only at same
  subst same
  simp only [replaceInstance, built, Bind.bind, Except.bind, pure, Except.pure]
  cases b.instances.get? name <;> rfl

end Bench

section Commands

variable {e : Engine} {sink : Sink} {w : World} {signature name : String} {v : Value}
  {b made : Bench}

/-- What a command says that asks the bench for something and gets an answer. -/
theorem ends_onBench {request : Bench.Request} {text : String}
    (answered : w.bench.carryOut w.files request = (.ok text, b)) :
    (Request.onBench request sink w).Ends
      [.event ⟨[], .wrote sink text⟩ ({ w with bench := b }.write sink text)] (.ok true)
      ({ w with bench := b }.write sink text) := by
  simp only [Request.onBench, answered]
  exact .note .here

end Commands

/-- An instance is replaced and shown. A signature that builds a value always replaces; the name has
the value then, and every object is as it was when the value had been built, but for the one that
the name had before, which is closed. What is shown is the value with these objects; where closing
spares the value, that is what it was when it had been built. -/
theorem replaced_instance_is_shown (e : Engine) (sink : Sink) (w : World) (signature name : String)
    (v : Value) (made : Bench) (built : w.bench.instantiate signature = .ok (v, made)) :
    let previous? := w.bench.instances.get? name
    ∃ p q replaced,
      (Command.perform e .namedInstanceReplace [signature, name] sink w).Ends p (.ok true)
        replaced ∧
      (Command.perform e .namedInstanceEcho [name] sink replaced).Ends q (.ok true)
        (replaced.write sink (replaced.bench.display v ++ "\n")) ∧
      replaced.bench.instances = made.instances.set name v ∧
      (∀ id, previous? ≠ some (.object id) →
        replaced.bench.objects.get? id = made.objects.get? id) ∧
      (∀ id, previous? = some (.object id) →
        replaced.bench.objects.get? id = (made.objects.get? id).map Object.closed) ∧
      (made.objects.Spares previous? v → replaced.bench.display v = made.display v) := by
  intro previous?
  let after : Bench := { made with
    instances := w.bench.instances.set name v
    objects := made.objects.release previous? }
  let replaced : World := { w with bench := after }.write sink ""
  have kept : replaced.bench = after := World.bench_write ..
  have same : made.instances = w.bench.instances := by
    obtain ⟨objects, rfl⟩ : ∃ objects, made = { w.bench with objects } :=
      Bench.objects_instantiate built
    rfl
  have settled : w.bench.carryOut w.files (.replaceInstance signature name) = (.ok "", after) := by
    simp only [Bench.carryOut, Bench.replaceInstance_eq built]
    rfl
  have shown : replaced.bench.carryOut replaced.files (.showInstance name) =
      (.ok (replaced.bench.display v ++ "\n"), replaced.bench) := by
    have found : replaced.bench.instances.require name = .ok v := by
      rw [kept, Instances.require, Table.get?_set_same]
    simp only [Bench.carryOut, found]
    simp [Except.map, Bench.ofLines, String.join]
  refine ⟨_, _, replaced, ends_onBench settled, ends_onBench shown, ?_, fun id other => ?_,
    fun id known => ?_, fun spares => ?_⟩
  · rw [kept, same]
  · rw [kept]
    exact Objects.get?_release_other other
  · rw [kept]
    change (made.objects.release previous?).get? id = _
    rw [known, Objects.get?_release_same]
  · rw [kept]
    exact Objects.display_release spares

/-- A signature of a collection with two items, written without blanks. -/
theorem Signature.parse_pair {x y : Expression} (first : x.Source) (second : y.Source)
    {signature : String}
    (written : signature = String.ofList
      (layOut (fun _ => ⟨[], by simp⟩) (Expression.call "Collection" [x, y]).tokens)) :
    parse signature = .ok (.call "Collection" [x, y]) := by
  have source : (Expression.call "Collection" [x, y]).Source := by
    refine .call (by simp [IsIdentifier]; decide) fun e member => ?_
    rcases List.mem_pair.mp member with rfl | rfl
    · exact first
    · exact second
  rw [written, parse, String.toList_ofList, tokens_layOut _ source.spelt source.isDivided]
  exact whole_eq_ok_iff.mpr ⟨source.proper, rfl⟩

def Bench.bagged : Bench :=
  { Bench.fresh with
    instances := .ofList [("bag", .object 0)]
    objects := ⟨[.collection [.int 1, .int 2]]⟩ }

/-- A collection that is replaced by another one. -/
theorem replaced_instance_is_shown_anew :
    let w : World := { World.fresh Command.withLog ⟨[], []⟩ ⟨0, 0⟩ (FileTree.bare []) with
      bench := .bagged }
    ∃ v made, w.bench.instantiate "Collection(1,3)" = .ok (v, made) ∧
      made.display v = "[1, 3]" ∧
      ∃ p q replaced,
        (Command.perform .standard .namedInstanceReplace ["Collection(1,3)", "bag"] .text
          w).Ends p (.ok true) replaced ∧
        (Command.perform .standard .namedInstanceEcho ["bag"] .text replaced).Ends q (.ok true)
          (replaced.write .text ("[1, 3]" ++ "\n")) := by
  intro w
  let made : Bench := { Bench.bagged with
    objects := ⟨[.collection [.int 1, .int 2], .collection [.int 1, .int 3]]⟩ }
  have built : w.bench.instantiate "Collection(1,3)" = .ok (.object 1, made) := by
    rw [Bench.instantiate, Signature.Factory.build,
      Signature.parse_pair (.int 1) (.int 3) (by decide)]
    rfl
  have display : made.display (.object 1) = "[1, 3]" := by decide +kernel
  refine ⟨.object 1, made, built, display, ?_⟩
  obtain ⟨p, q, replaced, replaces, shows, _, _, _, intact⟩ :=
    replaced_instance_is_shown .standard .text w "Collection(1,3)" "bag" _ made built
  have spares : made.objects.Spares (some (.object 0)) (.object 1) := by
    intro id object known _
    obtain rfl : 0 = id := by simpa using known
    apply Or.inr
    intro part
    cases part with
    | inside cell member part =>
      cases cell
      rcases List.mem_pair.mp member with rfl | rfl <;> cases part
  rw [intact spares, display] at shows
  exact ⟨p, q, replaced, replaces, shows⟩

/-- A collection that is replaced by one which it is part of. The old collection is closed, and so
the new one has lost its items. -/
theorem extended_collection_is_emptied :
    let w : World := { World.fresh Command.withLog ⟨[], []⟩ ⟨0, 0⟩ (FileTree.bare []) with
      bench := .bagged }
    Bench.fresh.addInstance "Collection(1,2)" "bag" = .ok .bagged ∧
    (∃ v made, w.bench.instantiate "Collection(bag,3)" = .ok (v, made) ∧
      made.display v = "[[1, 2], 3]") ∧
    ∃ p q replaced,
      (Command.perform .standard .namedInstanceReplace ["Collection(bag,3)", "bag"] .text
        w).Ends p (.ok true) replaced ∧
      (Command.perform .standard .namedInstanceEcho ["bag"] .text replaced).Ends q (.ok true)
        (replaced.write .text ("[[], 3]" ++ "\n")) := by
  intro w
  let made : Bench := { Bench.bagged with
    objects := ⟨[.collection [.int 1, .int 2], .collection [.object 0, .int 3]]⟩ }
  let after : Bench := { Bench.bagged with
    instances := .ofList [("bag", .object 1)]
    objects := ⟨[.collection [], .collection [.object 0, .int 3]]⟩ }
  have free : ¬ Signature.IsLiteral "bag" := by simp [Signature.IsLiteral]
  have bag : (Signature.Expression.name "bag").Source :=
    .name (by simp [Signature.IsIdentifier]; decide) free
  let replaced : World := { w with bench := after }.write .text ""
  have built : w.bench.instantiate "Collection(bag,3)" = .ok (.object 1, made) := by
    rw [Bench.instantiate, Signature.Factory.build, Signature.parse_pair bag (.int 3) (by decide)]
    rfl
  have replaces : w.bench.carryOut w.files (.replaceInstance "Collection(bag,3)" "bag") =
      (.ok "", after) := by
    simp only [Bench.carryOut, Bench.replaceInstance_eq built]
    rfl
  have shows : replaced.bench.carryOut replaced.files (.showInstance "bag") =
      (.ok ("[[], 3]" ++ "\n"), replaced.bench) := by
    with_unfolding_all rfl
  refine ⟨?_, ⟨.object 1, made, built, by decide +kernel⟩, _, _, replaced, ends_onBench replaces,
    ends_onBench shows⟩
  rw [Bench.addInstance, Bench.instantiate, Signature.Factory.build,
    Signature.parse_pair (.int 1) (.int 2) (by decide)]
  rfl

end Runbook
