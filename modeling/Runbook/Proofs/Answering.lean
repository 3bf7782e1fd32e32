import Runbook.Proofs.Raising
/-! Who answers for the failure of a command. It goes outwards along the actions that are being
carried out: to the innermost one whose policy covers it, or else to the outermost one that has a
policy at all, which reports it. -/
namespace Runbook

open Course

structure Turn where
  level : Level
  index : Nat

namespace Turn

def plan (t : Turn) : Plan :=
  (Plan.resolve t.level.descriptor).toOption.getD ⟨⟨none, none⟩, .once, none, none, none⟩

def catches (t : Turn) : Bool := t.plan.policy.catches

def terminates (t : Turn) (f : Failure) : Bool := t.plan.policy.repeatUntil.any (·.covers f.kind)

def handles (t : Turn) (f : Failure) : Bool :=
  t.terminates f || t.plan.policy.ignore.any (·.covers f.kind)

/-- What an action does that handles a failure: its loop ends with success, or turns to its next
iteration if there is one. -/
def handling (t : Turn) (f : Failure) : Happening :=
  if t.terminates f then .finished (.ok true)
  else if t.plan.iterations.has (t.index + 1) then .turned (t.index + 1)
  else .finished (.ok true)

def layers (t : Turn) : List Layer := [.action t.level, .round t.index]

def line (t : Turn) (f : Failure) : String :=
  Iteration.failed t.level.descriptor.name f ++ "\n"

end Turn

/-- The layers of what a chain of actions runs, each of them run by the one before. -/
def layersOf (chain : List Turn) : List Layer := chain.flatMap Turn.layers

theorem layersOf_injective {chain other : List Turn} (h : layersOf chain = layersOf other) :
    chain = other := by
  induction chain generalizing other with
  | nil =>
    cases other with
    | nil => rfl
    | cons u other => simp [layersOf, Turn.layers] at h
  | cons t chain ih =>
    cases other with
    | nil => simp [layersOf, Turn.layers] at h
    | cons u other =>
      obtain ⟨level, index, rest⟩ : t.level = u.level ∧ t.index = u.index ∧
          layersOf chain = layersOf other := by
        simpa [layersOf, Turn.layers] using h
      obtain rfl : t = u := by
        cases t
        cases u
        simp_all
      rw [ih rest]

theorem command_not_mem_layersOf (chain : List Turn) (c : Command) :
    .command c ∉ layersOf chain := by
  simp [layersOf, Turn.layers]

inductive Ending where
  /-- It lets the failure out. -/
  | passed
  /-- It fails with a report. -/
  | reported
  /-- Something else happens next, unless the loop has gone round as often as it may. -/
  | handled (next : Event) (spare : Nat)

/-- What happens after a failure, and how the run goes on then. -/
structure Verdict where
  events : List Event
  ending : Ending

namespace Verdict

def under (layer : Layer) (v : Verdict) : Verdict where
  events := v.events.map (Event.under layer)
  ending :=
    match v.ending with
    | .handled next spare => .handled (next.under layer) spare
    | .reported => .reported
    | .passed => .passed

@[simp] theorem ending_under_passed {layer : Layer} {v : Verdict} :
    (v.under layer).ending = .passed ↔ v.ending = .passed := by
  rw [under]
  cases v.ending <;> simp

@[simp] theorem ending_under_reported {layer : Layer} {v : Verdict} :
    (v.under layer).ending = .reported ↔ v.ending = .reported := by
  rw [under]
  cases v.ending <;> simp

def lines (v : Verdict) : List Event := v.events.filter (·.what.isWriting)

theorem lines_under (layer : Layer) (v : Verdict) :
    (v.under layer).lines = v.lines.map (Event.under layer) := by
  simp only [lines, under, List.filter_map]
  rfl

theorem lines_eq_nil {v : Verdict} {answer : Answer}
    (ends : ∀ e ∈ v.events, e.what = .finished answer) : v.lines = [] := by
  refine List.filter_eq_nil_iff.mpr fun e member => ?_
  rw [ends e member]
  simp [Happening.isWriting]

end Verdict

def Turn.settle (t : Turn) (limit : Nat) (sink : Sink) (throws : Bool) (f : Failure)
    (v : Verdict) : Verdict :=
  match v.ending with
  | .handled .. => v
  | .reported => ⟨v.events ++ [⟨[], .finished (.ok false)⟩], .reported⟩
  | .passed =>
    if t.handles f then
      ⟨v.events, .handled ⟨[], t.handling f⟩ (if t.terminates f then 1 else limit - (t.index + 1))⟩
    else if throws then ⟨v.events ++ [⟨[], .finished (.error f)⟩], .passed⟩
    else
      ⟨v.events ++ [⟨[], .wrote sink (t.line f)⟩, ⟨[], .finished (.ok false)⟩], .reported⟩

/-- What a chain of actions makes of a failure in the last of them. -/
def verdict (f : Failure) : Nat → Sink → Bool → List Turn → Verdict
  | _, _, _, [] => ⟨[], .passed⟩
  | limit, sink, throws, t :: rest =>
    let inside := verdict f (limit - 1) (t.level.outlet.sink sink) (throws || t.catches) rest
    (t.settle limit (t.level.outlet.sink sink) throws f (inside.under (.round t.index))).under
      (.action t.level)

inductive GoesOn (f : Failure) : Verdict → Course World (Answer × Frame) → Prop
  | passed (told : List (Event × World)) (frame : Frame) (w : World) :
      GoesOn f ⟨told.map Prod.fst, .passed⟩ (after told (.done (.error f, frame) w))
  | reported (told : List (Event × World)) (frame : Frame) (w : World) :
      GoesOn f ⟨told.map Prod.fst, .reported⟩ (after told (.done (.ok false, frame) w))
  | handled (told : List (Event × World)) (next : Event) (spare : Nat) (w : World)
      (more : Unit → Course World (Answer × Frame)) :
      GoesOn f ⟨told.map Prod.fst, .handled next spare⟩ (after told (.note next w more))
  | spent (told : List (Event × World)) (next : Event) :
      GoesOn f ⟨told.map Prod.fst, .handled next 0⟩ (after told .stuck)

namespace GoesOn

variable {f : Failure} {v : Verdict} {d : Course World (Answer × Frame)}

theorem bind (h : GoesOn f v d) {k : Answer × Frame → World → Course World (Answer × Frame)}
    (stops : Stops k) : GoesOn f v (d.bind k) := by
  cases h with
  | passed told frame w =>
    rw [bind_after, bind_done, stops _ _ _ (by simp)]
    exact .passed told frame w
  | reported told frame w =>
    rw [bind_after, bind_done, stops _ _ _ (by simp)]
    exact .reported told frame w
  | handled told next spare w more =>
    rw [bind_after]
    exact .handled told next spare w _
  | spent told next =>
    rw [bind_after]
    exact .spent told next

theorem under (h : GoesOn f v d) (layer : Layer) : GoesOn f (v.under layer) (d.under layer) := by
  have same : ∀ told : List (Event × World),
      (told.map Prod.fst).map (Event.under layer) =
        (told.map fun e => (e.1.under layer, e.2)).map Prod.fst := by
    simp
  cases h with
  | passed told frame w =>
    rw [under_after, Verdict.under, same]
    exact .passed _ frame w
  | reported told frame w =>
    rw [under_after, Verdict.under, same]
    exact .reported _ frame w
  | handled told next spare w more =>
    rw [under_after, Verdict.under, same]
    exact .handled _ _ spare w _
  | spent told next =>
    rw [under_after, Verdict.under, same]
    exact .spent _ _

theorem passes (h : GoesOn f v d) {d' : Course World (Answer × Frame)} (passes : Passes d d') :
    GoesOn f v d' := by
  cases passes with
  | plain => exact h
  | captured name text =>
    have same : ∀ told : List (Event × World),
        told.map Prod.fst = (told.map fun e => (e.1, { e.2 with text := text })).map Prod.fst := by
      simp
    cases h with
    | passed told frame w =>
      rw [underText_after, map, bind_after, same]
      exact .passed _ frame _
    | reported told frame w =>
      rw [underText_after, map, bind_after, same]
      exact .reported _ frame _
    | handled told next spare w more =>
      rw [underText_after, map, bind_after, same]
      exact .handled _ next spare _ _
    | spent told next =>
      rw [underText_after, map, bind_after, same]
      exact .spent _ next

theorem of_handled {next : Event} {spare : Nat} (h : GoesOn f v d)
    (ending : v.ending = .handled next spare) :
    ∃ told rest, d = after told rest ∧ told.map Prod.fst = v.events ∧
      ((∃ w more, rest = .note next w more) ∨ (rest = .stuck ∧ spare = 0)) := by
  cases h with
  | handled told _ _ w more =>
    obtain ⟨rfl, rfl⟩ := Ending.handled.inj ending
    exact ⟨told, _, rfl, rfl, .inl ⟨w, more, rfl⟩⟩
  | spent told _ =>
    obtain ⟨rfl, rfl⟩ := Ending.handled.inj ending
    exact ⟨told, _, rfl, rfl, .inr ⟨rfl, rfl⟩⟩
  | _ => cases ending

theorem of_reported (h : GoesOn f v d) (ending : v.ending = .reported) :
    ∃ told frame w, d = after told (.done (.ok false, frame) w) ∧
      told.map Prod.fst = v.events := by
  cases h with
  | reported told frame w => exact ⟨told, frame, w, rfl, rfl⟩
  | _ => cases ending

theorem passed_append (told more : List (Event × World)) (frame : Frame) (w : World) :
    GoesOn f ⟨told.map Prod.fst ++ more.map Prod.fst, .passed⟩
      (after told (after more (.done (.error f, frame) w))) := by
  rw [← List.map_append, ← after_append]
  exact .passed ..

theorem reported_append (told more : List (Event × World)) (frame : Frame) (w : World) :
    GoesOn f ⟨told.map Prod.fst ++ more.map Prod.fst, .reported⟩
      (after told (after more (.done (.ok false, frame) w))) := by
  rw [← List.map_append, ← after_append]
  exact .reported ..

/-- The loop of an action after its body has come to an answer, and what was told before. -/
theorem resume_done {call : Call} {plan : Plan} {loop? : Option LoopVariable} {body : Body}
    {turn spare : Nat} (told : List (Event × World)) (answer : Answer) (frame : Frame) (w : World) :
    Runbook.resume call plan loop? body turn spare (after told (.done (answer, frame) w)) =
      after (told.map fun e => (e.1.under (.round turn), e.2))
        (((Iteration.conclude call plan.policy answer frame w).bind
          (loopOn plan.iterations.has (Iteration.round call plan loop? body) (.ok true) turn
            spare)).bind (finish loop?)) := by
  rw [Runbook.resume, under_after, bind_after, bind_after, bind_after]
  rfl

/-- After a failure that its policy ignores a loop turns to its next iteration, if there is one and
the bound allows for it. -/
theorem goesOn_next {t : Turn} {call : Call} {loop? : Option LoopVariable} {body : Body}
    {spare : Nat} (told : List (Event × World)) (frame : Frame) (w : World)
    (goes : t.terminates f = false) :
    GoesOn f ⟨told.map Prod.fst, .handled ⟨[], t.handling f⟩ spare⟩
      (after told ((loop t.plan.iterations.has (Iteration.round call t.plan loop? body) (.ok true)
        spare (t.index + 1) frame w).bind (finish loop?))) := by
  cases spare with
  | zero => exact .spent told _
  | succ spare =>
    by_cases one : t.plan.iterations.has (t.index + 1) = true
    · rw [loop_succ one, Turn.handling, goes, if_pos one]
      exact .handled told _ _ w _
    · rw [Turn.handling, goes, if_neg one]
      simp only [loop, one]
      exact .handled told _ _ w _

/-- One action, from the body of one of its rounds to the end of its loop. -/
theorem resume (h : GoesOn f v d) {t : Turn} {call : Call} {loop? : Option LoopVariable}
    {body : Body} {limit spare : Nat} (named : t.level.descriptor.name = call.action)
    (sum : t.index + spare + 1 = limit) :
    GoesOn f (t.settle limit call.sink call.throws f (v.under (.round t.index)))
      (resume call t.plan loop? body t.index spare d) := by
  have same : ∀ told : List (Event × World),
      (told.map Prod.fst).map (Event.under (.round t.index)) =
        (told.map fun e => (e.1.under (.round t.index), e.2)).map Prod.fst := by
    simp
  cases h with
  | passed told frame w =>
    rw [resume_done]
    simp only [Verdict.under, Turn.settle, same, Iteration.conclude, Iteration.settle,
      Policy.classify]
    generalize told.map (fun e => (e.1.under (.round t.index), e.2)) = told
    -- The loop ends, or goes on with its next iteration; or else the failure is passed on or
    -- reported.
    by_cases ends : t.terminates f = true
    · simp only [Turn.handles, Turn.handling, ends, Bool.true_or, if_true]
      rw [Turn.terminates] at ends
      simp only [ends, if_true]
      exact .handled told _ 1 w _
    by_cases covered : t.plan.policy.ignore.any (·.covers f.kind) = true
    · have left : limit - (t.index + 1) = spare := by omega
      simp only [Turn.handles, covered, Bool.or_true, if_true, ends, left]
      have goes := @goesOn_next f t call loop? body spare told frame w (by simpa using ends)
      rw [Turn.terminates] at ends
      simp only [ends]
      exact goes
    · simp only [Turn.handles, ends, covered]
      rw [Turn.terminates] at ends
      simp only [ends]
      cases call.throws with
      | true => exact passed_append told [(⟨[], .finished (.error f)⟩, w)] _ w
      | false =>
        rw [Turn.line, named]
        exact reported_append told [(⟨[], .wrote call.sink _⟩, _),
          (⟨[], .finished (.ok false)⟩, _)] _ _
  | reported told frame w =>
    rw [resume_done]
    simp only [Verdict.under, Turn.settle, same]
    exact reported_append _ [(⟨[], .finished (.ok false)⟩, w)] _ w
  | handled told next spare w more =>
    simp only [Verdict.under, Turn.settle, same]
    rw [Runbook.resume, under_after, bind_after, bind_after, bind_after]
    exact .handled _ _ spare w _
  | spent told next =>
    simp only [Verdict.under, Turn.settle, same]
    rw [Runbook.resume, under_after, bind_after, bind_after, bind_after]
    exact .spent _ _

end GoesOn

section Chain

variable {perform : Performer} {f : Failure}

theorem plan_eq {d : Descriptor} {plan : Plan} (planned : Plan.resolve d = .ok plan)
    (outlet : Outlet) (index : Nat) : Turn.plan ⟨⟨d, outlet⟩, index⟩ = plan := by
  rw [Turn.plan, planned]
  rfl

/-- After a failure of a command in it, an invocation goes on as the verdict on the chain of its
actions says. -/
theorem goesOn_runner (steps : Nat) {call : Call} {frame : Frame} {w w' : World}
    {layers : List Layer} {d : Course World (Answer × Frame)}
    (h : (Action.runner perform steps call frame w).Meets ⟨layers, .raised f⟩ w' d)
    (outside : ∀ c, .command c ∉ layers) :
    ∃ t rest, layers = layersOf (t :: rest) ∧ t.level.descriptor.name = call.action ∧
      GoesOn f (verdict f (steps - 1) call.sink call.throws (t :: rest)) d := by
  induction steps generalizing call frame w w' layers d with
  | zero => exact absurd h not_meets_stuck
  | succ steps ih =>
    obtain ⟨level, _, frame, w, w', d₀, d₁, k, named, rfl, carried, passes, rfl, stops⟩ :=
      meets_invoke h
    obtain ⟨plan, loop?, turn, spare, inner, frame, w, d₂, planned, sum, rfl, dispatched, rfl⟩ :=
      meets_carryOut carried
    have outside : ∀ c, .command c ∉ inner := fun c member => outside c (by simp [member])
    obtain rfl : Turn.plan ⟨level, turn⟩ = plan := plan_eq planned level.outlet turn
    -- What the inner actions make of the failure goes through the rest of the round here, then
    -- through the loop and the capture.
    have settled : ∀ rest,
        GoesOn f (verdict f (steps - 1) (level.outlet.sink call.sink)
          (call.throws || Turn.catches ⟨level, turn⟩) rest) d₂ →
        GoesOn f (verdict f steps call.sink call.throws (⟨level, turn⟩ :: rest))
          ((d₁.under (.action level)).bind k) := fun rest inside =>
      have carried := @GoesOn.resume f _ _ inside ⟨level, turn⟩
        { call with sink := level.outlet.sink call.sink } loop? _ steps spare named sum
      ((carried.passes passes).under (.action level)).bind stops
    rcases meets_dispatch dispatched outside with ⟨rfl, rfl⟩ | ⟨name, _, _, d₃, k, ran, rfl, stops'⟩
    · refine ⟨⟨level, turn⟩, [], rfl, named, settled [] ?_⟩
      exact .passed [] _ _
    · obtain ⟨t, rest, rfl, _, inside⟩ := ih ran outside
      exact ⟨⟨level, turn⟩, t :: rest, rfl, named, settled _ (inside.bind stops')⟩

theorem Turn.catches_of_handles {t : Turn} (h : t.handles f = true) : t.catches = true := by
  have isSome : ∀ class? : Option FailureClass,
      class?.any (·.covers f.kind) = true → class?.isSome = true := by
    intro class? covers
    cases class? with
    | none => exact covers
    | some _ => rfl
  simp only [handles, terminates, catches, Policy.catches, Bool.or_eq_true] at h ⊢
  exact h.imp (isSome _) (isSome _)

/-- Where nobody handles a failure, it goes through all actions that let it out. -/
theorem verdict_passed (limit : Nat) (sink : Sink) (chain : List Turn)
    (unhandled : ∀ t ∈ chain, t.handles f = false) :
    (verdict f limit sink true chain).ending = .passed ∧
      ∀ e ∈ (verdict f limit sink true chain).events, e.what = .finished (.error f) := by
  induction chain generalizing limit sink with
  | nil => simp [verdict]
  | cons t rest ih =>
    obtain ⟨ending, events⟩ := ih (limit - 1) (t.level.outlet.sink sink)
      fun u member => unhandled u (by simp [member])
    have here := unhandled t (by simp)
    simp only [verdict, Turn.settle, Verdict.under, Bool.true_or, ending, here]
    refine ⟨rfl, fun e member => ?_⟩
    simp at member
    rcases member with ⟨a, inside, rfl⟩ | rfl
    · exact events a inside
    · rfl

/-- The innermost action whose policy covers a failure handles it. -/
theorem verdict_handled (limit : Nat) (sink : Sink) (throws : Bool) (outer inner : List Turn)
    {t : Turn} (handles : t.handles f = true) (unhandled : ∀ u ∈ inner, u.handles f = false) :
    (verdict f limit sink throws (outer ++ t :: inner)).ending =
        .handled ⟨layersOf outer ++ [.action t.level], t.handling f⟩
          (if t.terminates f then 1 else limit - outer.length - (t.index + 1)) ∧
      ∀ e ∈ (verdict f limit sink throws (outer ++ t :: inner)).events,
        e.what = .finished (.error f) := by
  induction outer generalizing limit sink throws with
  | nil =>
    obtain ⟨ending, events⟩ :=
      verdict_passed (limit - 1) (t.level.outlet.sink sink) inner unhandled
    simp only [List.nil_append, verdict, Turn.settle, Verdict.under, Turn.catches_of_handles handles,
      Bool.or_true, ending, handles]
    refine ⟨rfl, ?_⟩
    simpa [Event.under] using events
  | cons u outer ih =>
    obtain ⟨ending, events⟩ := ih (limit - 1) (u.level.outlet.sink sink) (throws || u.catches)
    have depth : limit - 1 - outer.length = limit - (outer.length + 1) := by omega
    simp only [List.cons_append, verdict, Turn.settle, Verdict.under, ending]
    refine ⟨?_, ?_⟩
    · simp [layersOf, Turn.layers, Event.under, depth]
    · simpa [Event.under] using events

theorem Turn.settle_reported (t : Turn) (limit : Nat) (sink : Sink) (throws : Bool) {v : Verdict}
    (reported : v.ending = .reported) :
    (t.settle limit sink throws f v).ending = .reported ∧
      (t.settle limit sink throws f v).lines = v.lines := by
  simp [settle, reported, Verdict.lines, Happening.isWriting]

theorem Turn.settle_passed (t : Turn) (limit : Nat) (sink : Sink) {v : Verdict}
    (passed : v.ending = .passed) (unhandled : t.handles f = false) :
    (t.settle limit sink false f v).ending = .reported ∧
      (t.settle limit sink false f v).lines = v.lines ++ [⟨[], .wrote sink (t.line f)⟩] := by
  simp [settle, passed, unhandled, Verdict.lines, Happening.isWriting]

/-- A failure that nobody handles is reported once: by the outermost action with a policy, or else
by the innermost action. -/
theorem verdict_reported (limit : Nat) (site : Site) (outer inner : List Turn) {t : Turn}
    (unhandled : ∀ u ∈ outer ++ t :: inner, u.handles f = false)
    (quiet : ∀ u ∈ outer, u.catches = false) (last : t.catches = true ∨ inner = []) :
    (verdict f limit site.sink false (outer ++ t :: inner)).ending = .reported ∧
      (verdict f limit site.sink false (outer ++ t :: inner)).lines =
        [⟨layersOf outer ++ [.action t.level],
          .wrote (site.within (layersOf outer ++ [.action t.level])).sink (t.line f)⟩] := by
  induction outer generalizing limit site with
  | nil =>
    have here := unhandled t (by simp)
    have inside : (verdict f (limit - 1) (t.level.outlet.sink site.sink) t.catches inner).ending =
          .passed ∧
        ∀ e ∈ (verdict f (limit - 1) (t.level.outlet.sink site.sink) t.catches inner).events,
          e.what = .finished (.error f) := by
      rcases last with catches | rfl
      · rw [catches]
        exact verdict_passed _ _ inner fun u member => unhandled u (by simp [member])
      · simp [verdict]
    obtain ⟨ending, events⟩ := inside
    -- On its way through the inner actions the failure is thrown, so nothing is written there.
    have silent := Verdict.lines_eq_nil events
    obtain ⟨reported, lines⟩ := t.settle_passed limit (t.level.outlet.sink site.sink)
      (Verdict.ending_under_passed.mpr ending) here
    rw [Verdict.lines_under, silent] at lines
    rw [List.nil_append, verdict, Bool.false_or, Verdict.ending_under_reported,
      Verdict.lines_under, lines]
    exact ⟨reported, rfl⟩
  | cons u outer ih =>
    have calm := quiet u (by simp)
    have inside : (verdict f (limit - 1) (u.level.outlet.sink site.sink) false
          (outer ++ t :: inner)).ending = .reported ∧
        (verdict f (limit - 1) (u.level.outlet.sink site.sink) false (outer ++ t :: inner)).lines =
          [⟨layersOf outer ++ [.action t.level], .wrote ((site.enter (.action u.level)).within
            (layersOf outer ++ [.action t.level])).sink (t.line f)⟩] :=
      ih (limit - 1) (site.enter (.action u.level))
        (fun v member => unhandled v (by rw [List.cons_append]; exact .tail _ member))
        (fun v member => quiet v (.tail _ member))
    obtain ⟨ending, lines⟩ := inside
    obtain ⟨reported, same⟩ := u.settle_reported (f := f) limit (u.level.outlet.sink site.sink) false
      (Verdict.ending_under_reported.mpr ending)
    rw [List.cons_append, verdict, calm, Bool.or_false, Verdict.ending_under_reported,
      Verdict.lines_under, same, Verdict.lines_under, lines]
    exact ⟨reported, rfl⟩

end Chain

end Runbook
