import Runbook.Proofs.Inversion
/-! Events on the way: which part of a course an event comes from, and what the whole course goes
on with after it. -/
namespace Runbook

namespace Course

variable {σ α β : Type}

/-- Along some path a course comes to an event and the state that it leaves behind, and goes on
as another course. -/
def Meets (c : Course σ α) (e : Event) (s : σ) (d : Course σ α) : Prop :=
  ∃ path, c.Reaches (path ++ [.event e s]) d

variable {c d : Course σ α} {e : Event} {s t : σ}

theorem meets_iff : c.Meets e s d ↔ ∃ path next, c.Reaches path (.note e s next) ∧ d = next () := by
  constructor
  · rintro ⟨path, h⟩
    obtain ⟨c', before, last⟩ := reaches_append.mp h
    cases last with
    | note rest =>
      obtain rfl := reaches_nil.mp rest
      exact ⟨path, _, before, rfl⟩
  · rintro ⟨path, next, before, rfl⟩
    exact ⟨path, before.trans (.note .here)⟩

@[simp] theorem not_meets_done {a : α} : ¬ (done a t : Course σ α).Meets e s d := by
  rintro ⟨path, h⟩
  simp at h

@[simp] theorem not_meets_stuck : ¬ (stuck : Course σ α).Meets e s d := by
  rintro ⟨path, h⟩
  simp at h

theorem meets_note {what : Event} {next : Unit → Course σ α} (h : (note what t next).Meets e s d) :
    (what = e ∧ t = s ∧ d = next ()) ∨ (next ()).Meets e s d := by
  obtain ⟨path, next', reached, rfl⟩ := meets_iff.mp h
  cases reached with
  | here => exact .inl ⟨rfl, rfl, rfl⟩
  | note rest => exact .inr (meets_iff.mpr ⟨_, _, rest, rfl⟩)

theorem meets_wait {reason : Wait} {next : σ → Course σ α}
    (h : (wait reason t next).Meets e s d) : ∃ now, (next now).Meets e s d := by
  obtain ⟨path, next', reached, rfl⟩ := meets_iff.mp h
  cases reached with
  | wait rest => exact ⟨_, meets_iff.mpr ⟨_, _, rest, rfl⟩⟩

/-- An event comes from the first of two courses, or from the second one after the first has come
to its end. -/
theorem meets_bind {f : α → σ → Course σ β} {d : Course σ β} (h : (c.bind f).Meets e s d) :
    (∃ d₀, c.Meets e s d₀ ∧ d = d₀.bind f) ∨
      ∃ path a t, c.Ends path a t ∧ (f a t).Meets e s d := by
  induction c with
  | stuck => simp at h
  | done a t => exact .inr ⟨[], a, t, .here, h⟩
  | note what t next ih =>
    rcases meets_note h with ⟨rfl, rfl, rfl⟩ | later
    · exact .inl ⟨next (), meets_iff.mpr ⟨[], _, .here, rfl⟩, rfl⟩
    rcases ih () later with ⟨d₀, ⟨path, met⟩, rfl⟩ | ⟨path, a, t, ends, met⟩
    · exact .inl ⟨d₀, ⟨_ :: path, .note met⟩, rfl⟩
    · exact .inr ⟨_ :: path, a, t, .note ends, met⟩
  | wait reason t next ih =>
    obtain ⟨now, later⟩ := meets_wait h
    rcases ih now later with ⟨d₀, ⟨path, met⟩, rfl⟩ | ⟨path, a, t, ends, met⟩
    · exact .inl ⟨d₀, ⟨_ :: path, .wait met⟩, rfl⟩
    · exact .inr ⟨_ :: path, a, t, .wait ends, met⟩

theorem meets_under {layer : Layer} (h : (c.under layer).Meets e s d) :
    ∃ inner d₀, e = inner.under layer ∧ c.Meets inner s d₀ ∧ d = d₀.under layer := by
  obtain ⟨path, next, reached, rfl⟩ := meets_iff.mp h
  obtain ⟨p, c', rfl, same, before⟩ := reaches_under.mp reached
  cases c' with
  | note inner t next' =>
    simp only [under, note.injEq] at same
    obtain ⟨rfl, rfl, rfl⟩ := same
    exact ⟨inner, next' (), rfl, meets_iff.mpr ⟨p, next', before, rfl⟩, rfl⟩
  | _ => simp [under] at same

theorem meets_underText {α : Type} {c : Course World α} {outer : String} {w : World}
    {d : Course World (α × String)} (h : (c.underText outer).Meets e w d) :
    ∃ inner d₀ text, c.Meets e inner d₀ ∧ d = d₀.underText text := by
  induction c generalizing outer with
  | stuck => simp [underText] at h
  | done a t => simp [underText] at h
  | note what t next ih =>
    rcases meets_note h with ⟨rfl, rfl, rfl⟩ | later
    · exact ⟨t, next (), outer, meets_iff.mpr ⟨[], _, .here, rfl⟩, rfl⟩
    · obtain ⟨inner, d₀, text, ⟨path, met⟩, rfl⟩ := ih () later
      exact ⟨inner, d₀, text, ⟨_ :: path, .note met⟩, rfl⟩
  | wait reason t next ih =>
    obtain ⟨now, later⟩ := meets_wait h
    obtain ⟨inner, d₀, text, ⟨path, met⟩, rfl⟩ := ih _ later
    exact ⟨inner, d₀, text, ⟨_ :: path, .wait met⟩, rfl⟩

def loopOn (has : Nat → Bool) (round : Nat → β → σ → Course σ (Round α β)) (result : α)
    (turn spare : Nat) : Round α β → σ → Course σ (α × β)
  | .next b, s => loop has round result spare (turn + 1) b s
  | .stop a b, s => .done (a, b) s

/-- An event of a loop comes from one of its rounds, and the loop goes on from there. -/
theorem meets_loop {has : Nat → Bool} {round : Nat → β → σ → Course σ (Round α β)} {result : α}
    {limit index : Nat} {b : β} {d : Course σ (α × β)}
    (h : (loop has round result limit index b t).Meets e s d) :
    ∃ turn spare b' t' d₀, turn + spare + 1 = index + limit ∧
      (round turn b' t').Meets e s d₀ ∧
      d = d₀.bind (loopOn has round result turn spare) := by
  induction limit generalizing index b t with
  | zero => simp [loop] at h
  | succ limit ih =>
    by_cases one : has index = true
    · rw [loop_succ one] at h
      rcases meets_bind h with ⟨d₀, met, rfl⟩ | ⟨_, r, _, _, later⟩
      · refine ⟨index, limit, b, t, d₀, by omega, met, congrArg _ (funext fun r => ?_)⟩
        cases r <;> rfl
      · cases r with
        | next b =>
          obtain ⟨turn, spare, b', t', d₀, sum, met, rfl⟩ := ih later
          exact ⟨turn, spare, b', t', d₀, by omega, met, rfl⟩
        | stop a b => simp at later
    · simp [loop, one] at h

end Course

structure Course.Calm {α : Type} (c : Course World α) : Prop where
  false_of_meets : ∀ {layers f w d}, c.Meets ⟨layers, .raised f⟩ w d → False

section Calm

open Course

variable {α β : Type} {w : World}

theorem calm_done (a : α) : Calm (.done a w) := ⟨not_meets_done⟩

theorem Course.Calm.bind {c : Course World α} {f : α → World → Course World β} (first : c.Calm)
    (later : ∀ a w, (f a w).Calm) : (c.bind f).Calm where
  false_of_meets met := by
    rcases meets_bind met with ⟨d₀, met, _⟩ | ⟨_, a, w, _, met⟩
    · exact first.false_of_meets met
    · exact (later a w).false_of_meets met

theorem Course.Calm.map {c : Course World α} (h : c.Calm) (f : α → β) : (c.map f).Calm :=
  h.bind fun _ _ => calm_done _

theorem calm_tell {what : Happening} (other : ∀ f, what ≠ .raised f) : Calm (w.tell what) where
  false_of_meets met := by
    rcases meets_note met with ⟨same, _⟩ | later
    · exact other _ (congrArg Event.what same)
    · simp at later

theorem calm_sayLine (sink : Sink) (line : String) : Calm (w.sayLine sink line) :=
  calm_tell (by simp)

theorem calm_describe (m : Modifier) (call : Call) (frame : Frame) :
    Calm (Iteration.describe m call frame w) := by
  unfold Iteration.describe
  split
  · exact calm_sayLine ..
  · exact calm_done _

theorem calm_warn (call : Call) (plan : Plan) : Calm (Action.warn call plan w) := by
  unfold Action.warn
  split
  · exact calm_sayLine ..
  · exact calm_done _

theorem calm_postpone (time? : Option TimeOfDay) : Calm (w.postpone time?) := by
  unfold World.postpone
  split
  · unfold World.pause
    split
    · exact calm_done _
    · refine ⟨fun met => ?_⟩
      obtain ⟨now, later⟩ := meets_wait met
      simp at later
  · exact calm_done _

theorem calm_conclude (call : Call) (p : Policy) (answer : Answer) (frame : Frame) :
    Calm (Iteration.conclude call p answer frame w) := by
  unfold Iteration.conclude
  split
  · exact (calm_describe ..).map _
  · exact calm_done _
  · unfold Iteration.settle
    split
    · exact calm_done _
    · exact calm_done _
    · exact calm_done _
    · exact (calm_sayLine ..).map _

theorem calm_resolve (d : Descriptor) (caller : Sink) (frame : Frame) :
    Calm (Outlet.resolve d caller frame w) := by
  unfold Outlet.resolve
  split
  · exact calm_done _
  · exact calm_done _
  · refine Calm.bind ?_ fun _ w => ?_
    · split
      · exact calm_sayLine ..
      · exact calm_done _
    · split
      · exact calm_done _
      · exact (calm_sayLine ..).map _

end Calm

section Raised

open Course

variable {perform : Performer} {e : Engine} {call : Call} {frame : Frame} {w w' : World}
  {layers : List Layer} {f : Failure}

/-- A round raises what its body does. -/
theorem meets_round {plan : Plan} {loop? : Option LoopVariable} {body : Body} {index : Nat}
    {d : Course World (Round Answer Frame)}
    (h : (Iteration.round call plan loop? body index frame w).Meets ⟨layers, .raised f⟩ w' d) :
    ∃ inner frame w d₀, layers = .round index :: inner ∧
      (body frame w).Meets ⟨inner, .raised f⟩ w' d₀ ∧
      d = (d₀.under (.round index)).bind fun r w =>
        Iteration.conclude call plan.policy r.1 r.2 w := by
  rcases meets_bind h with ⟨_, met, _⟩ | ⟨_, _, w, _, later⟩
  · exact ((calm_tell (by simp)).false_of_meets met).elim
  by_cases past : w.shutdown = true
  · simp only [past, if_true] at later
    exact (((calm_sayLine ..).map _).false_of_meets later).elim
  · simp only [past] at later
    rcases meets_bind later with ⟨_, met, _⟩ | ⟨_, _, w, _, later⟩
    · exact ((calm_describe ..).false_of_meets met).elim
    rcases meets_bind later with ⟨_, met, rfl⟩ | ⟨_, _, _, _, met⟩
    · obtain ⟨⟨inner, what⟩, d₀, same, met, rfl⟩ := meets_under met
      obtain ⟨rfl, rfl⟩ : layers = .round index :: inner ∧ .raised f = what := by
        simpa [Event.under] using same
      exact ⟨inner, _, w, d₀, rfl, met, rfl⟩
    · exact ((calm_conclude ..).false_of_meets met).elim

/-- A continuation that leaves alone all answers but success. -/
def Stops (k : Answer × Frame → World → Course World (Answer × Frame)) : Prop :=
  ∀ answer frame w, answer ≠ .ok true → k (answer, frame) w = .done (answer, frame) w

/-- A block raises what one of its actions does, and is over when that one fails. -/
theorem meets_block {run : Runner} {names : List String} {d : Course World (Answer × Frame)}
    (h : (Action.block run call names frame w).Meets ⟨layers, .raised f⟩ w' d) :
    ∃ name frame w d₀ k, (run { call with action := name } frame w).Meets ⟨layers, .raised f⟩ w' d₀ ∧
      d = d₀.bind k ∧ Stops k := by
  induction names generalizing frame w with
  | nil => simp [Action.block] at h
  | cons name names ih =>
    rcases meets_bind h with ⟨d₀, met, rfl⟩ | ⟨_, ⟨answer, frame⟩, w, _, later⟩
    · refine ⟨name, frame, w, d₀, _, met, rfl, fun answer frame w other => ?_⟩
      match answer with
      | .ok true => exact absurd rfl other
      | .ok false | .error _ => rfl
    · match answer with
      | .ok true => exact ih later
      | .ok false | .error _ => exact absurd later not_meets_done

/-- Outside of its layer a command raises its own failure alone. -/
theorem meets_command {c : Command} {args : List String} {sink : Sink} {d : Course World Answer}
    (h : (Action.command perform e c args sink w).Meets ⟨layers, .raised f⟩ w' d)
    (outside : ∀ c, .command c ∉ layers) : layers = [] ∧ d = .done (.error f) w' := by
  rcases meets_bind h with ⟨_, met, _⟩ | ⟨_, _, w, _, later⟩
  · exact ((calm_tell (by simp)).false_of_meets met).elim
  rcases meets_bind later with ⟨_, met, _⟩ | ⟨_, answer, w, _, later⟩
  · obtain ⟨inner, _, same, _⟩ := meets_under met
    have inside : .command c ∈ layers := by
      rw [show layers = .command c :: inner.layers from congrArg Event.layers same]
      exact List.mem_cons_self
    exact absurd inside (outside c)
  match answer with
  | .ok _ => exact absurd later not_meets_done
  | .error g =>
    rcases meets_note later with ⟨same, rfl, rfl⟩ | later
    · obtain ⟨rfl, rfl⟩ : layers = [] ∧ f = g := by simpa [eq_comm] using same
      exact ⟨rfl, rfl⟩
    · exact absurd later not_meets_done

/-- The target of an action raises a failure as a command, or as an action that it runs. -/
theorem meets_dispatch {d : Course World (Answer × Frame)}
    (h : (Action.dispatch perform e call frame w).Meets ⟨layers, .raised f⟩ w' d)
    (outside : ∀ c, .command c ∉ layers) :
    (layers = [] ∧ d = .done (.error f, frame) w') ∨
      ∃ name frame w d₀ k,
        (e.run { call with action := name } frame w).Meets ⟨layers, .raised f⟩ w' d₀ ∧
        d = d₀.bind k ∧ Stops k := by
  simp only [Action.dispatch] at h
  split at h
  · exact .inr (meets_block h)
  split at h
  · rcases meets_bind h with ⟨d₀, met, rfl⟩ | ⟨_, _, _, _, later⟩
    · obtain ⟨rfl, rfl⟩ := meets_command met outside
      exact .inl ⟨rfl, rfl⟩
    · exact absurd later not_meets_done
  split at h
  · exact .inr ⟨_, frame, w, d, fun r w => .done r w, h, (bind_done_right d).symm, fun _ _ _ _ => rfl⟩
  · exact (((calm_sayLine ..).map _).false_of_meets h).elim

def finish (loop? : Option LoopVariable) (r : Answer × Frame) (w : World) :
    Course World (Answer × Frame) :=
  .note ⟨[], .finished r.1⟩ w fun _ => .done (r.1, Iteration.restore loop? r.2) w

/-- What an action goes on with after its body has gone on as a course in one of the rounds. -/
def resume (call : Call) (plan : Plan) (loop? : Option LoopVariable) (body : Body)
    (turn spare : Nat) (d : Course World (Answer × Frame)) : Course World (Answer × Frame) :=
  (((d.under (.round turn)).bind fun r w => Iteration.conclude call plan.policy r.1 r.2 w).bind
    (loopOn plan.iterations.has (Iteration.round call plan loop? body) (.ok true) turn spare)).bind
      (finish loop?)

theorem meets_carryOut {descriptor : Descriptor} {d : Course World (Answer × Frame)}
    (h : (Action.carryOut perform e call descriptor frame w).Meets ⟨layers, .raised f⟩ w' d) :
    ∃ plan loop? turn spare inner frame w d₀, Plan.resolve descriptor = .ok plan ∧
      turn + spare + 1 = e.limit ∧ layers = .round turn :: inner ∧
      (Action.dispatch perform e (Action.inner call plan.policy) frame w).Meets
        ⟨inner, .raised f⟩ w' d₀ ∧
      d = resume call plan loop? (Action.dispatch perform e (Action.inner call plan.policy)) turn
        spare d₀ := by
  simp only [Action.carryOut] at h
  split at h
  · exact (((calm_sayLine ..).map _).false_of_meets h).elim
  · rename_i plan planned
    rcases meets_bind h with ⟨_, met, _⟩ | ⟨_, _, w, _, later⟩
    · exact (((calm_warn ..).bind fun _ _ => calm_postpone _).false_of_meets met).elim
    -- All that is said before the loop and after it is calm.
    rcases meets_bind later with ⟨_, met, rfl⟩ | ⟨_, _, _, _, later⟩
    · obtain ⟨turn, spare, _, _, d₁, sum, round, rfl⟩ := meets_loop met
      obtain ⟨inner, left, v, d₀, rfl, body, rfl⟩ := meets_round round
      exact ⟨plan, Iteration.saved? descriptor.loopName plan frame.vars, turn, spare, inner, left,
        v, d₀, planned, by omega, rfl, body, rfl⟩
    · exact (((calm_tell (by simp)).map _).false_of_meets later).elim

inductive Passes (d : Course World (Answer × Frame)) : Course World (Answer × Frame) → Prop
  | plain : Passes d d
  | captured (name text : String) :
      Passes d ((d.underText text).map fun r => (r.1.1, Action.captureInto name r.2 r.1.1 r.1.2))

theorem meets_through {body : Sink → Body} {caller : Sink} {outlet : Outlet}
    {d : Course World (Answer × Frame)}
    (h : (Action.through body caller outlet frame w).Meets ⟨layers, .raised f⟩ w' d) :
    ∃ w w' d₀, (body (outlet.sink caller) frame w).Meets ⟨layers, .raised f⟩ w' d₀ ∧
      Passes d₀ d := by
  cases outlet with
  | caller => exact ⟨w, w', d, h, .plain⟩
  | file _ => exact ⟨w, w', d, h, .plain⟩
  | capture name =>
    rw [Action.through, Action.capturing_eq] at h
    rcases meets_bind h with ⟨_, met, rfl⟩ | ⟨_, _, _, _, later⟩
    · obtain ⟨inner, d₀, text, inside, rfl⟩ := meets_underText met
      exact ⟨_, inner, d₀, inside, .captured name text⟩
    · exact absurd later not_meets_done

theorem meets_invoke {d : Course World (Answer × Frame)}
    (h : (Action.invoke perform e call frame w).Meets ⟨layers, .raised f⟩ w' d) :
    ∃ level inner frame w w' d₀ d₁ k, level.descriptor.name = call.action ∧
      layers = .action level :: inner ∧
      (Action.carryOut perform e { call with sink := level.outlet.sink call.sink }
        level.descriptor frame w).Meets ⟨inner, .raised f⟩ w' d₀ ∧
      Passes d₀ d₁ ∧ d = (d₁.under (.action level)).bind k ∧ Stops k := by
  rcases meets_bind h with ⟨_, met, _⟩ | ⟨_, _, w, _, later⟩
  · exact ((calm_tell (by simp)).false_of_meets met).elim
  rcases meets_bind later with ⟨_, met, _⟩ | ⟨_, ⟨outlet?, frame⟩, w, _, later⟩
  · exact ((calm_resolve ..).false_of_meets met).elim
  cases outlet? with
  | none => exact absurd later not_meets_done
  | some outlet =>
    rcases meets_bind later with ⟨_, met, rfl⟩ | ⟨_, ⟨answer, _⟩, _, _, later⟩
    · obtain ⟨⟨inner, what⟩, d₁, same, through, rfl⟩ := meets_under met
      obtain ⟨rfl, rfl⟩ : layers = .action ⟨_, outlet⟩ :: inner ∧ .raised f = what := by
        simpa [Event.under] using same
      obtain ⟨w, w', d₀, carried, passes⟩ := meets_through through
      refine ⟨⟨_, outlet⟩, inner, frame, w, w', d₀, d₁, _, rfl, rfl, carried, passes, rfl,
        fun answer frame w other => ?_⟩
      match answer with
      | .ok true => exact absurd rfl other
      | .ok false | .error _ => rfl
    · match answer with
      | .ok true | .ok false | .error _ => exact absurd later not_meets_done

end Raised

end Runbook
