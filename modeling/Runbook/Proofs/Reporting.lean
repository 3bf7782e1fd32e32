import Runbook.Proofs.Inversion
import Runbook.Proofs.Lockstep
/-! What the caller asks for changes nothing but the way in which a failure is delivered: a run
that lets its failures out does the same as the one that reports them, less one line. -/
namespace Runbook.Reporting

open Course

/-- A failure leaves a run that throws, and is one more line of the run that reports. -/
structure Parted (site : Site) (layers : List Layer) (f : Failure)
    (thrown reported : List (Event × World)) (w w' : World) : Prop where
  silent : writings (steps thrown) = []
  line : writings (steps reported) =
    [⟨layers, .wrote (site.within layers).sink
      (Iteration.failed (site.within layers).action f ++ "\n")⟩]
  world : w' = (site.within layers).withLine w (Iteration.failed (site.within layers).action f)

/-- The layers between an action and one that it consists of, which may be the action itself. -/
inductive Descends : List Layer → Prop
  | own : Descends []
  | part {layers : List Layer} (index : Nat) (level : Level) (h : Descends layers) :
      Descends (.round index :: .action level :: layers)

def Invoked (layers : List Layer) : Prop :=
  ∃ level inner, layers = .action level :: inner ∧ Descends inner

inductive Divides {α : Type} (places : List Layer → Prop) (site : Site)
    (result : Answer → Frame → α) : Course World α → Course World α → Prop
  | same {a : α} {w : World} : Divides places site result (.done a w) (.done a w)
  | parted {layers : List Layer} {f : Failure} {frame : Frame}
      {thrown reported : List (Event × World)} {w w' : World} (place : places layers)
      (parted : Parted site layers f thrown reported w w') :
      Divides places site result (after thrown (.done (result (.error f) frame) w))
        (after reported (.done (result (.ok false) frame) w'))

section Parted

variable {site : Site} {layers : List Layer} {f : Failure}
  {thrown reported : List (Event × World)} {w w' : World}

theorem writings_under {σ : Type} (layer : Layer) (told : List (Event × σ)) :
    writings (steps (told.map fun e => (e.1.under layer, e.2))) =
      (writings (steps told)).map (Event.under layer) := by
  simp only [writings, events_steps, List.map_map, List.filter_map]
  rfl

theorem writings_withText (told : List (Event × World)) (outer : String) :
    writings (steps (told.map fun e => (e.1, { e.2 with text := outer }))) =
      writings (steps told) := by
  simp only [writings, events_steps, List.map_map]
  rfl

theorem Parted.own (action : String) (sink : Sink) (f : Failure) (w : World) :
    Parted ⟨action, sink, false⟩ [] f []
      [(⟨[], .wrote sink (Iteration.failed action f ++ "\n")⟩,
        w.writeLine sink (Iteration.failed action f))]
      w (w.writeLine sink (Iteration.failed action f)) :=
  ⟨rfl, rfl, rfl⟩

theorem Parted.under (layer : Layer)
    (h : Parted (site.enter layer) layers f thrown reported w w') :
    Parted site (layer :: layers) f (thrown.map fun e => (e.1.under layer, e.2))
      (reported.map fun e => (e.1.under layer, e.2)) w w' where
  silent := by rw [writings_under, h.silent]; rfl
  line := by rw [writings_under, h.line]; rfl
  world := h.world

/-- Out of a capture, what was written to its text is gone. -/
theorem Parted.captured (outer : String)
    (h : Parted { site with captured := false } layers f thrown reported w w') :
    Parted { site with captured := true } layers f
      (thrown.map fun e => (e.1, { e.2 with text := outer }))
      (reported.map fun e => (e.1, { e.2 with text := outer }))
      { w with text := outer } { w' with text := outer } := by
  have hsite : { site with captured := true }.within layers =
      { ({ site with captured := false }.within layers) with captured := true } :=
    Site.within_captured { site with captured := false } layers
  refine ⟨by rw [writings_withText, h.silent], by rw [writings_withText, h.line, hsite], ?_⟩
  rw [hsite, h.world]
  generalize { site with captured := false }.within layers = t
  obtain ⟨action, sink, captured⟩ := t
  cases sink <;> cases captured <;> rfl

theorem Parted.append {p q : List (Event × World)}
    (h : Parted site layers f thrown reported w w') (hp : writings (steps p) = [])
    (hq : writings (steps q) = []) :
    Parted site layers f (thrown ++ p) (reported ++ q) w w' where
  silent := by
    have : writings (steps (thrown ++ p)) = writings (steps thrown) ++ writings (steps p) := by
      simp [steps]
    rw [this, h.silent, hp]; rfl
  line := by
    have : writings (steps (reported ++ q)) = writings (steps reported) ++ writings (steps q) := by
      simp [steps]
    rw [this, h.line, hq]; rfl
  world := h.world

end Parted

section Round

variable {call : Call} {p : Policy} {site : Site}

/-- A failure that the policy covers is dealt with in both runs alike; another one parts them. -/
theorem conclude_divides (action : String) (sink : Sink) (p : Policy) (answer : Answer)
    (frame : Frame) (w : World) :
    Lockstep (Divides Descends ⟨action, sink, false⟩ Round.stop)
      (Iteration.conclude ⟨action, sink, true⟩ p answer frame w)
      (Iteration.conclude ⟨action, sink, false⟩ p answer frame w) := by
  match answer with
  | .ok true => exact .bind_left _ fun _ _ => .tail .same
  | .ok false => exact .tail .same
  | .error f =>
    simp only [Iteration.conclude, Iteration.settle, Policy.classify]
    by_cases hu : p.repeatUntil.any (·.covers f.kind) = true
    · simpa only [hu, if_true] using .tail .same
    by_cases hi : p.ignore.any (·.covers f.kind) = true
    · simpa only [hu, hi, if_true] using .tail .same
    · simp only [hu, hi, if_true, World.sayLine_eq, map, bind_after, bind_done]
      exact .tail (.parted .own (.own action sink f w))

/-- Without a policy a failure goes on as it has come. -/
theorem conclude_passes {action : String} {sink : Sink} {p : Policy}
    (quiet : p.catches = false) (f : Failure) (frame : Frame) (w : World) :
    Iteration.conclude ⟨action, sink, true⟩ p (.error f) frame w =
      .done (.stop (.error f) frame) w := by
  obtain ⟨hu, hi⟩ : p.repeatUntil = none ∧ p.ignore = none := by
    simpa [Policy.catches] using quiet
  simp [Iteration.conclude, Iteration.settle, Policy.classify, hu, hi]

/-- The bodies of the two runs: the same where a policy catches their failures, and delivering
them differently elsewhere. -/
structure Bodies (site : Site) (p : Policy) (throwing reporting : Body) : Prop where
  same : p.catches = true → throwing = reporting
  divide : p.catches = false → ∀ frame w,
    Lockstep (Divides Invoked site Prod.mk) (throwing frame w) (reporting frame w)

theorem bodyRound_divides {action : String} {sink : Sink} {throwing reporting : Body}
    (h : Bodies ⟨action, sink, false⟩ p throwing reporting) (index : Nat) (frame : Frame)
    (w : World) :
    Lockstep (Divides Descends ⟨action, sink, false⟩ Round.stop)
      (Iteration.bodyRound ⟨action, sink, true⟩ p throwing index frame w)
      (Iteration.bodyRound ⟨action, sink, false⟩ p reporting index frame w) := by
  refine .bind_left _ fun _ w => ?_
  -- A policy that catches makes both runs throw inside. Without one the runs may part in the body,
  -- and the policy lets through what comes out of it.
  cases quiet : p.catches with
  | true =>
    rw [h.same quiet]
    exact .bind_left _ fun _ _ => conclude_divides ..
  | false =>
    refine ((h.divide quiet frame w).under
      (T := Divides Descends ⟨action, sink, false⟩ Prod.mk) ?_).bind ?_
    · rintro _ _ (_ | ⟨place, parted⟩)
      · exact .same
      · obtain ⟨level, inner, rfl, descends⟩ := place
        rw [under_after, under_after]
        exact .parted (.part index level descends) (parted.under (.round index))
    · rintro _ _ (_ | ⟨place, parted⟩)
      · exact conclude_divides ..
      · simp only [bind_after, bind_done, conclude_passes quiet]
        exact .tail (.parted place parted)

theorem round_divides {action : String} {sink : Sink} {plan : Plan}
    {throwing reporting : Body}
    (h : Bodies ⟨action, sink, false⟩ plan.policy throwing reporting)
    (loop? : Option LoopVariable) (index : Nat) (frame : Frame) (w : World) :
    Lockstep (Divides Descends ⟨action, sink, false⟩ Round.stop)
      (Iteration.round ⟨action, sink, true⟩ plan loop? throwing index frame w)
      (Iteration.round ⟨action, sink, false⟩ plan loop? reporting index frame w) := by
  refine .bind_left _ fun _ w => ?_
  by_cases past : w.shutdown = true
  · simp only [past, if_true]
    exact .bind_left _ fun _ _ => .tail .same
  · simp only [past]
    exact bodyRound_divides h ..

theorem loop_divides {has : Nat → Bool} {places : List Layer → Prop} {site : Site}
    {throwing reporting : Nat → Frame → World → Course World (Round Answer Frame)}
    (h : ∀ index frame w,
      Lockstep (Divides places site Round.stop) (throwing index frame w) (reporting index frame w))
    (limit index : Nat) (frame : Frame) (w : World) :
    Lockstep (Divides places site Prod.mk) (loop has throwing (.ok true) limit index frame w)
      (loop has reporting (.ok true) limit index frame w) := by
  induction limit generalizing index frame w with
  | zero => exact .stuck
  | succ limit ih =>
    by_cases more : has index = true
    · rw [loop_succ more, loop_succ more]
      refine (h index frame w).bind ?_
      rintro _ _ (_ | ⟨place, parted⟩)
      · rename_i round _
        cases round with
        | next frame => exact ih ..
        | stop answer frame => exact .tail .same
      · rw [bind_after, bind_after]
        exact .tail (.parted place parted)
    · simp only [loop, more]
      exact .tail .same

theorem all_divides {action loopName : String} {sink : Sink} {plan : Plan}
    {throwing reporting : Body}
    (h : Bodies ⟨action, sink, false⟩ plan.policy throwing reporting) (limit : Nat)
    (frame : Frame) (w : World) :
    Lockstep (Divides Descends ⟨action, sink, false⟩ Prod.mk)
      (Iteration.all ⟨action, sink, true⟩ loopName plan throwing limit frame w)
      (Iteration.all ⟨action, sink, false⟩ loopName plan reporting limit frame w) := by
  refine (loop_divides (round_divides h _) ..).bind ?_
  rintro _ _ (_ | ⟨place, parted⟩)
  · rename_i reached w
    exact .bind_left (w.tell (.finished reached.1)) fun _ _ => .tail .same
  · simp only [bind_after, bind_done, World.tell_eq, map]
    rw [← after_append, ← after_append]
    exact .tail (.parted place (parted.append rfl rfl))

end Round

def Runner.Divides (run : Runner) : Prop :=
  ∀ (owner action : String) (sink : Sink) (frame : Frame) (w : World),
    Lockstep (Reporting.Divides Invoked ⟨owner, sink, false⟩ Prod.mk) (run ⟨action, sink, true⟩ frame w)
      (run ⟨action, sink, false⟩ frame w)

section Action

variable {perform : Performer} {e : Engine}

theorem block_divides {run : Runner} (h : Runner.Divides run) (action : String) (sink : Sink)
    (names : List String) (frame : Frame) (w : World) :
    Lockstep (Divides Invoked ⟨action, sink, false⟩ Prod.mk)
      (Action.block run ⟨action, sink, true⟩ names frame w)
      (Action.block run ⟨action, sink, false⟩ names frame w) := by
  induction names generalizing frame w with
  | nil => exact .tail .same
  | cons name rest ih =>
    refine (h action name sink frame w).bind ?_
    rintro _ _ (_ | ⟨place, parted⟩)
    · rename_i reached w
      obtain ⟨answer, frame⟩ := reached
      match answer with
      | .ok true => exact ih frame w
      | .ok false | .error _ => exact .tail .same
    · simp only [bind_after, bind_done]
      exact .tail (.parted place parted)

theorem dispatch_divides (h : Runner.Divides e.run) (action : String) (sink : Sink)
    (frame : Frame) (w : World) :
    Lockstep (Divides Invoked ⟨action, sink, false⟩ Prod.mk)
      (Action.dispatch perform e ⟨action, sink, true⟩ frame w)
      (Action.dispatch perform e ⟨action, sink, false⟩ frame w) := by
  simp only [Action.dispatch]
  split
  · exact block_divides h ..
  split
  · exact .bind_left _ fun _ _ => .tail .same
  split
  · exact h ..
  · exact .bind_left _ fun _ _ => .tail .same

theorem bodies_dispatch (h : Runner.Divides e.run) (action : String) (sink : Sink) (p : Policy) :
    Bodies ⟨action, sink, false⟩ p
      (Action.dispatch perform e (Action.inner ⟨action, sink, true⟩ p))
      (Action.dispatch perform e (Action.inner ⟨action, sink, false⟩ p)) where
  same catches := by simp [Action.inner, catches]
  divide quiet frame w := by
    simpa [Action.inner, quiet] using dispatch_divides h action sink frame w

theorem carryOut_divides (h : Runner.Divides e.run) (action : String) (sink : Sink)
    (d : Descriptor) (frame : Frame) (w : World) :
    Lockstep (Divides Descends ⟨action, sink, false⟩ Prod.mk)
      (Action.carryOut perform e ⟨action, sink, true⟩ d frame w)
      (Action.carryOut perform e ⟨action, sink, false⟩ d frame w) := by
  simp only [Action.carryOut]
  split
  · exact .bind_left _ fun _ _ => .tail .same
  · exact .bind_left _ fun _ w => all_divides (bodies_dispatch h ..) ..

/-- A capture keeps nothing of a failure, however that is delivered. -/
theorem capturing_divides {action : String} (name : String) {throwing reporting : Body}
    (h : ∀ frame w, Lockstep (Divides Descends ⟨action, .text, false⟩ Prod.mk)
      (throwing frame w) (reporting frame w)) (frame : Frame) (w : World) :
    Lockstep (Divides Descends ⟨action, .text, true⟩ Prod.mk)
      (Action.capturing name throwing frame w) (Action.capturing name reporting frame w) := by
  refine Lockstep.bind
    (R := fun c d => Lockstep (Divides Descends ⟨action, .text, true⟩ Prod.mk) (c.map _) (d.map _))
    ((h frame { w with text := "" }).underText ?_ w.text) fun _ _ related => related
  rintro _ _ outer (_ | ⟨place, parted⟩)
  · exact .tail .same
  · rw [underText_after, underText_after]
    simp only [map, underText, bind_after, bind_done]
    exact .tail (.parted place (@Parted.captured ⟨action, .text, false⟩ _ _ _ _ _ _ outer parted))

theorem through_divides {action : String} {caller : Sink} {throwing reporting : Sink → Body}
    (h : ∀ sink frame w, Lockstep (Divides Descends ⟨action, sink, false⟩ Prod.mk)
      (throwing sink frame w) (reporting sink frame w))
    (outlet : Outlet) (frame : Frame) (w : World) :
    Lockstep (Divides Descends ⟨action, outlet.sink caller, outlet.captures⟩ Prod.mk)
      (Action.through throwing caller outlet frame w)
      (Action.through reporting caller outlet frame w) := by
  cases outlet with
  | caller => exact h ..
  | file path => exact h ..
  | capture name => exact capturing_divides name (h .text) frame w

theorem invokeThrough_divides (h : Runner.Divides e.run) (owner : String) (sink : Sink)
    (d : Descriptor) (outlet : Outlet) (frame : Frame) (w : World) :
    Lockstep (Divides Invoked ⟨owner, sink, false⟩ Prod.mk)
      (Action.invokeThrough perform e ⟨d.name, sink, true⟩ d outlet frame w)
      (Action.invokeThrough perform e ⟨d.name, sink, false⟩ d outlet frame w) := by
  have carried : Lockstep (Divides Descends ⟨d.name, outlet.sink sink, outlet.captures⟩ Prod.mk)
      (Action.through (fun sink => Action.carryOut perform e ⟨d.name, sink, true⟩ d) sink outlet
        frame w)
      (Action.through (fun sink => Action.carryOut perform e ⟨d.name, sink, false⟩ d) sink outlet
        frame w) :=
    through_divides (fun sink frame w => carryOut_divides h d.name sink d frame w) outlet frame w
  -- Where the runs have parted inside, the layer of the action is put around both of them.
  refine (carried.under (T := Divides Invoked ⟨owner, sink, false⟩ Prod.mk) ?_).bind ?_
  · rintro _ _ (_ | ⟨place, parted⟩)
    · exact .same
    · rw [under_after, under_after]
      exact .parted ⟨_, _, rfl, place⟩ (Parted.under (.action ⟨d, outlet⟩) parted)
  · rintro _ _ (_ | ⟨place, parted⟩)
    · rename_i reached w
      obtain ⟨answer, frame⟩ := reached
      match answer with
      | .ok true | .ok false | .error _ => exact .tail .same
    · rw [bind_after, bind_after]
      exact .tail (.parted place parted)

theorem invoke_divides (h : Runner.Divides e.run) (owner action : String) (sink : Sink)
    (frame : Frame) (w : World) :
    Lockstep (Divides Invoked ⟨owner, sink, false⟩ Prod.mk)
      (Action.invoke perform e ⟨action, sink, true⟩ frame w)
      (Action.invoke perform e ⟨action, sink, false⟩ frame w) := by
  refine .bind_left _ fun _ w => .bind_left _ fun opened w => ?_
  obtain ⟨_ | outlet, frame⟩ := opened
  · exact .tail .same
  · exact invokeThrough_divides h owner sink (.read _ action _) outlet frame w

theorem runner_divides (perform : Performer) (steps : Nat) :
    Runner.Divides (Action.runner perform steps) := by
  induction steps with
  | zero => exact fun _ _ _ _ _ => .stuck
  | succ steps ih => exact invoke_divides ih

end Action

section Reported

variable {perform : Performer} {e : Engine} {call : Call} {frame : Frame} {w w' : World}
  {path : List (Step World)}

def Reported : Round Answer Frame → Prop
  | .next _ => True
  | .stop answer _ => ∃ b, answer = .ok b

theorem concluded_reported (reports : call.throws = false) {p : Policy} {answer : Answer}
    {r : Round Answer Frame} (h : Iteration.Concluded call p frame w answer path r w') :
    Reported r := by
  cases h with
  | succeeded | ignored => trivial
  | terminated => exact ⟨true, rfl⟩
  | failed | reported => exact ⟨false, rfl⟩
  | @propagated f g propagates =>
    have never : p.classify f false ≠ .propagate g := by
      unfold Policy.classify
      split
      · simp
      · split <;> simp
    exact absurd (reports ▸ propagates) never

theorem rounded_reported (reports : call.throws = false) {plan : Plan}
    {loop? : Option LoopVariable} {body : Body} {index : Nat} {r : Round Answer Frame}
    (h : Iteration.Rounded call plan loop? body index frame w path r w') : Reported r := by
  cases h with
  | interrupted => exact ⟨false, rfl⟩
  | ran _ _ _ concluded => exact concluded_reported reports concluded

theorem looped_reported (reports : call.throws = false) {plan : Plan}
    {loop? : Option LoopVariable} {body : Body} {index : Nat} {r : Answer × Frame}
    (h : Looped plan.iterations.has (Iteration.round call plan loop? body) (.ok true) index frame
      w path r w') : ∃ b, r.1 = .ok b := by
  induction h with
  | ended => exact ⟨true, rfl⟩
  | next _ _ _ ih => exact ih
  | stopped _ went => exact rounded_reported reports (Iteration.rounded went)

theorem carried_reported (reports : call.throws = false) {d : Descriptor} {r : Answer × Frame}
    (h : Action.Carried perform e call d frame w path r w') : ∃ b, r.1 = .ok b := by
  cases h with
  | unplanned => exact ⟨false, rfl⟩
  | ran _ _ _ went =>
    obtain ⟨b, answered⟩ := looped_reported reports went
    exact ⟨b, answered⟩

/-- A run that reports lets no failure out. -/
theorem ran_reported (reports : call.throws = false) {r : Answer × Frame}
    (h : Action.Ran perform e call frame w path r w') : ∃ b, r.1 = .ok b := by
  cases h with
  | refused => exact ⟨false, rfl⟩
  | @ran d _ _ _ _ _ _ _ _ _ _ went =>
    have each : ∀ {sink frame w path r w'},
        (Action.carryOut perform e { call with sink } d frame w).Ends path r w' →
          ∃ b, r.1 = .ok b := fun ends =>
      carried_reported (by exact reports) (Action.carried ends)
    cases went with
    | plain _ ran => exact each ran
    | captured _ ran =>
      obtain ⟨b, answered⟩ := each ran
      exact ⟨b, answered⟩

end Reported

theorem Descends.last {layers : List Layer} (h : Descends layers) :
    ∀ first : Level, ∃ outer level, .action first :: layers = outer ++ [.action level] := by
  induction h with
  | own => exact fun first => ⟨[], first, rfl⟩
  | part index level _ ih =>
    intro first
    obtain ⟨outer, last, same⟩ := ih level
    exact ⟨.action first :: .round index :: outer, last, by simp [same]⟩

theorem Site.action_within (site : Site) (outer : List Layer) (level : Level) :
    (site.within (outer ++ [.action level])).action = level.descriptor.name := by
  rw [Site.within_append]
  rfl

end Runbook.Reporting
