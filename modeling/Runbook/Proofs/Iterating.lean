import Runbook.Proofs.Inversion
/-! The loop of an action, whatever its body comes to. The iterations are those that the modifiers
ask for, each with its own value in the loop variable, up to the first one that ends the loop. -/
namespace Runbook

open Course

/-- How many iterations an action asks for, if it sets an end to them, and what its loop variable
holds in each of them, if it binds one. -/
inductive Descriptor.Asks (d : Descriptor) : Option Nat → (Nat → Option String) → Prop
  | each {values : String} (foreach : d.foreach = some values) :
      Asks d (some (Text.words values).length) fun index => (Text.words values)[index]?
  | times {text : String} {count : Nat} (noValues : d.foreach = none)
      (repeats : d.repeats = some text)
      (numeral : Numeral.unsigned64? (Text.trim text) = some count) :
      Asks d (some count) fun index => some (toString (index + 1))
  | unbounded {text : String} (noValues : d.foreach = none) (noCount : d.repeats = none)
      (until_ : d.repeatUntil.bind Text.nonBlank = some text) :
      Asks d none fun index => some (toString (index + 1))
  | once (noValues : d.foreach = none) (noCount : d.repeats = none)
      (noUntil : d.repeatUntil.bind Text.nonBlank = none) : Asks d (some 1) fun _ => none

namespace Iteration

/-- A frame in which the loop variable of a name holds a value, and its companion an index; without
a value the frame is as it was. -/
def Bound (name : String) (value? : Option String) (index : Nat) (frame begun : Frame) : Prop :=
  match value? with
  | some value =>
    begun.vars.get? name = some value ∧
      begun.vars.get? (iterationName name) = some (toString index) ∧
      (∀ x, x ≠ name → x ≠ iterationName name → begun.vars.get? x = frame.vars.get? x) ∧
      begun.control = frame.control ∧ begun.opened = frame.opened
  | none => begun = frame

def ending? (p : Policy) (throws : Bool) : Answer → Option Answer
  | .ok true => none
  | .ok false => some (.ok false)
  | .error f =>
    match p.classify f throws with
    | .ignore _ => none
    | .terminate _ => some (.ok true)
    | .propagate f => some (.error f)
    | .report _ => some (.ok false)

inductive Described (m : Modifier) (call : Call) (frame : Frame) (w : World) :
    List (Step World) → World → Prop
  | line {text : String} (has : frame.control.modifier? call.action m frame.vars = some text) :
      Described m call frame w [.event ⟨[], .wrote call.sink (text ++ "\n")⟩
        (w.writeLine call.sink text)] (w.writeLine call.sink text)
  | nothing (lacks : frame.control.modifier? call.action m frame.vars = none) :
      Described m call frame w [] w

/-- What is written behind the body: the second description after a success, and a failure that is
reported. -/
inductive Closed (call : Call) (p : Policy) (left : Frame) (w : World) :
    Answer → List (Step World) → World → Prop
  | succeeded {path : List (Step World)} {w' : World}
      (described : Described .descriptionAfter call left w path w') :
      Closed call p left w (.ok true) path w'
  | reported {f g : Failure} (by_ : p.classify f call.throws = .report g) :
      Closed call p left w (.error f)
        [.event ⟨[], .wrote call.sink (failed call.action g ++ "\n")⟩
          (w.writeLine call.sink (failed call.action g))]
        (w.writeLine call.sink (failed call.action g))
  | failed : Closed call p left w (.ok false) [] w
  | silent {f : Failure} (unreported : ∀ g, p.classify f call.throws ≠ .report g) :
      Closed call p left w (.error f) [] w

inductive Lap (call : Call) (plan : Plan) (loop? : Option LoopVariable) (body : Body)
    (index : Nat) (frame : Frame) (w : World) :
    List (Step World) → Answer → Frame → World → Prop
  | ran {before inside last : List (Step World)} {w₁ w₂ w' : World} {answer : Answer}
      {begun left : Frame} (running : w.shutdown = false)
      (bound : begun = bind loop? plan.iterations index frame)
      (described : Described .description call begun w before w₁)
      (ran : (body begun w₁).Ends inside (answer, left) w₂)
      (closed : Closed call plan.policy left w₂ answer last w') :
      Lap call plan loop? body index frame w
        (.event ⟨[], .turned index⟩ w ::
          (before ++ (inside.map (Step.under (.round index)) ++ last))) answer left w'

/-- Iterations one after the other from an index on, after each of which the loop goes on, with
what their bodies have come to. -/
inductive Laps (call : Call) (plan : Plan) (loop? : Option LoopVariable) (body : Body) :
    Nat → Frame → World → List Answer → List (Step World) → Frame → World → Prop
  | nil {index : Nat} {frame : Frame} {w : World} :
      Laps call plan loop? body index frame w [] [] frame w
  | next {index : Nat} {frame left mid : Frame} {w w₁ w' : World} {answer : Answer}
      {answers : List Answer} {path rest : List (Step World)}
      (one : ∀ count, plan.iterations.count? = some count → index < count)
      (lap : Lap call plan loop? body index frame w path answer left w₁)
      (goesOn : ending? plan.policy call.throws answer = none)
      (later : Laps call plan loop? body (index + 1) left w₁ answers rest mid w') :
      Laps call plan loop? body index frame w (answer :: answers) (path ++ rest) mid w'

/-- How the loop comes to its end when it turns to an iteration. -/
inductive Halt (call : Call) (plan : Plan) (loop? : Option LoopVariable) (body : Body)
    (index : Nat) (frame : Frame) (w : World) :
    List (Step World) → Answer → Frame → World → Prop
  | exhausted (all : plan.iterations.count? = some index) :
      Halt call plan loop? body index frame w [] (.ok true) frame w
  | interrupted (one : ∀ count, plan.iterations.count? = some count → index < count)
      (past : w.shutdown = true) :
      Halt call plan loop? body index frame w
        [.event ⟨[], .turned index⟩ w,
          .event ⟨[], .wrote call.sink (interrupted call.action ++ "\n")⟩
            (w.writeLine call.sink (interrupted call.action))]
        (.ok false) frame (w.writeLine call.sink (interrupted call.action))
  | stopped {path : List (Step World)} {answer result : Answer} {left : Frame} {w' : World}
      (one : ∀ count, plan.iterations.count? = some count → index < count)
      (lap : Lap call plan loop? body index frame w path answer left w')
      (ends : ending? plan.policy call.throws answer = some result) :
      Halt call plan loop? body index frame w path result left w'

section Rounds

variable {call : Call} {plan : Plan} {loop? : Option LoopVariable} {body : Body} {index : Nat}
  {frame left : Frame} {w w' : World} {path : List (Step World)} {answer : Answer}

theorem ends_describe {m : Modifier} :
    (describe m call frame w).Ends path () w' ↔ Described m call frame w path w' := by
  unfold describe
  constructor
  · intro ends
    split at ends
    · rename_i text has
      obtain ⟨rfl, rfl⟩ := ends_sayLine.mp ends
      exact .line has
    · rename_i lacks
      obtain ⟨rfl, _, rfl⟩ := ends_done.mp ends
      exact .nothing lacks
  · intro described
    cases described with
    | line has =>
      simp only [has]
      exact ends_sayLine.mpr ⟨rfl, rfl⟩
    | nothing lacks =>
      simp only [lacks]
      exact .here

def verdict (p : Policy) (throws : Bool) (answer : Answer) (left : Frame) : Round Answer Frame :=
  match ending? p throws answer with
  | none => .next left
  | some result => .stop result left

theorem ends_conclude {p : Policy} {r : Round Answer Frame} :
    (conclude call p answer left w).Ends path r w' ↔
      Closed call p left w answer path w' ∧ r = verdict p call.throws answer left := by
  constructor
  · intro ends
    match answer with
    | .ok true =>
      obtain ⟨_, described, rfl⟩ := ends_map.mp ends
      exact ⟨.succeeded (ends_describe.mp described), rfl⟩
    | .ok false =>
      obtain ⟨rfl, rfl, rfl⟩ := ends_done.mp ends
      exact ⟨.failed, rfl⟩
    | .error f =>
      simp only [conclude, settle] at ends
      cases classified : p.classify f call.throws with
      | report g =>
        rw [classified] at ends
        obtain ⟨_, said, rfl⟩ := ends_map.mp ends
        obtain ⟨rfl, rfl⟩ := ends_sayLine.mp said
        exact ⟨.reported classified, by simp [verdict, ending?, classified]⟩
      | terminate | ignore | propagate =>
        rw [classified] at ends
        obtain ⟨rfl, rfl, rfl⟩ := ends_done.mp ends
        exact ⟨.silent (by simp [classified]), by simp [verdict, ending?, classified]⟩
  · rintro ⟨closed, rfl⟩
    cases closed with
    | succeeded described => exact ends_map.mpr ⟨(), ends_describe.mpr described, rfl⟩
    | reported by_ =>
      simp only [conclude, settle, verdict, ending?, by_]
      exact ends_map.mpr ⟨(), ends_sayLine.mpr ⟨rfl, rfl⟩, rfl⟩
    | failed => exact .here
    | @silent f unreported =>
      simp only [conclude, settle, verdict, ending?]
      cases classified : p.classify f call.throws with
      | report g => exact absurd classified (unreported g)
      | terminate | ignore | propagate => exact .here

/-- A turn of the loop after the shutdown, and one before it. -/
theorem ends_round {r : Round Answer Frame} :
    (round call plan loop? body index frame w).Ends path r w' ↔
      (w.shutdown = true ∧ r = .stop (.ok false) frame ∧
        path = [.event ⟨[], .turned index⟩ w,
          .event ⟨[], .wrote call.sink (interrupted call.action ++ "\n")⟩ w'] ∧
        w' = w.writeLine call.sink (interrupted call.action)) ∨
      ∃ answer left, Lap call plan loop? body index frame w path answer left w' ∧
        r = verdict plan.policy call.throws answer left := by
  have turned : (w.tell (.turned index)).Ends [.event ⟨[], .turned index⟩ w] () w :=
    ends_tell.mpr ⟨rfl, rfl⟩
  constructor
  · intro ends
    obtain ⟨_, rest, _, w, rfl, told, later⟩ := ends_bind.mp ends
    obtain ⟨rfl, rfl⟩ := ends_tell.mp told
    by_cases past : w.shutdown = true
    · simp only [past, if_true] at later
      obtain ⟨_, said, rfl⟩ := ends_map.mp later
      obtain ⟨rfl, rfl⟩ := ends_sayLine.mp said
      exact .inl ⟨past, rfl, rfl, rfl⟩
    · simp only [past] at later
      obtain ⟨before, _, _, _, rfl, described, later⟩ := ends_bind.mp later
      obtain ⟨_, last, ⟨answer, left⟩, _, rfl, inside, ended⟩ := ends_bind.mp later
      obtain ⟨inside, rfl, ran⟩ := ends_under.mp inside
      obtain ⟨closed, rfl⟩ := ends_conclude.mp ended
      exact .inr ⟨answer, left,
        .ran (by simpa using past) rfl (ends_describe.mp described) ran closed, rfl⟩
  · rintro (⟨past, rfl, rfl, rfl⟩ | ⟨answer, left, lap, rfl⟩)
    · apply Ends.bind turned
      simp only [past, if_true]
      exact ends_map.mpr ⟨(), ends_sayLine.mpr ⟨rfl, rfl⟩, rfl⟩
    · cases lap with
      | ran running bound described ran closed =>
        subst bound
        apply Ends.bind turned
        simp only [running]
        apply Ends.bind (ends_describe.mpr described)
        exact Ends.bind (ends_under.mpr ⟨_, rfl, ran⟩) (ends_conclude.mpr ⟨closed, rfl⟩)

theorem Lap.turn (lap : Lap call plan loop? body index frame w path answer left w') :
    (round call plan loop? body index frame w).Ends path
      (verdict plan.policy call.throws answer left) w' :=
  ends_round.mpr (.inr ⟨answer, left, lap, rfl⟩)

end Rounds

section Loops

variable {call : Call} {plan : Plan} {loop? : Option LoopVariable} {body : Body} {index limit : Nat}
  {frame left : Frame} {w w' : World} {path : List (Step World)} {result : Answer}

theorem has_iff {it : Iterations} :
    it.has index = true ↔ ∀ count, it.count? = some count → index < count := by
  cases known : it.count? <;> simp [Iterations.has, known]

/-- A loop that has come to its end has gone through some iterations and then halted. The index that
it begins with is not beyond the iterations. -/
theorem halt_of_ends (within : ∀ count, plan.iterations.count? = some count → index ≤ count)
    (ends : (loop plan.iterations.has (round call plan loop? body) (.ok true) limit index frame
      w).Ends path (result, left) w') :
    ∃ answers p q mid v, path = p ++ q ∧ answers.length < limit ∧
      Laps call plan loop? body index frame w answers p mid v ∧
      Halt call plan loop? body (index + answers.length) mid v q result left w' := by
  induction limit generalizing index frame w path with
  | zero => exact absurd ends not_ends_stuck
  | succ limit ih =>
    by_cases one : plan.iterations.has index = true
    · have further : ∀ count, plan.iterations.count? = some count → index + 1 ≤ count :=
        has_iff.mp one
      rw [loop_succ one] at ends
      obtain ⟨p, rest, r, v, rfl, went, later⟩ := ends_bind.mp ends
      rcases ends_round.mp went with ⟨past, rfl, rfl, rfl⟩ | ⟨answer, mid, lap, rfl⟩
      · obtain ⟨rfl, same, rfl⟩ := ends_done.mp later
        obtain ⟨rfl, rfl⟩ := Prod.mk.inj same
        exact ⟨[], [], _, left, w, rfl, Nat.succ_pos limit, .nil, .interrupted further past⟩
      cases ending : ending? plan.policy call.throws answer with
      | none =>
        rw [verdict, ending] at later
        obtain ⟨answers, p', q, mid', v', rfl, fewer, laps, halt⟩ := ih further later
        rw [Nat.add_right_comm] at halt
        exact ⟨answer :: answers, p ++ p', q, mid', v', (List.append_assoc ..).symm,
          Nat.succ_lt_succ fewer, .next further lap ending laps, halt⟩
      | some outcome =>
        rw [verdict, ending] at later
        obtain ⟨rfl, same, rfl⟩ := ends_done.mp later
        obtain ⟨rfl, rfl⟩ := Prod.mk.inj same
        rw [List.append_nil]
        exact ⟨[], [], p, frame, w, rfl, Nat.succ_pos limit, .nil, .stopped further lap ending⟩
    · simp only [loop, one] at ends
      obtain ⟨rfl, same, rfl⟩ := ends_done.mp ends
      obtain ⟨rfl, rfl⟩ := Prod.mk.inj same
      have all : plan.iterations.count? = some index := by
        cases known : plan.iterations.count? with
        | none => simp [Iterations.has, known] at one
        | some count =>
          have upTo := within count known
          have beyond : ¬ index < count := by simpa [Iterations.has, known] using one
          rw [show count = index by omega]
      exact ⟨[], [], [], left, w', rfl, Nat.succ_pos limit, .nil, .exhausted all⟩

theorem Halt.ends (halt : Halt call plan loop? body index frame w path result left w') :
    (loop plan.iterations.has (round call plan loop? body) (.ok true) (limit + 1) index frame
      w).Ends path (result, left) w' := by
  cases halt with
  | exhausted all =>
    have none : plan.iterations.has index ≠ true := fun one =>
      Nat.lt_irrefl index (has_iff.mp one index all)
    simp only [loop, none]
    exact .here
  | interrupted one past =>
    rw [loop_succ (has_iff.mpr one)]
    exact Ends.bind (ends_round.mpr (.inl ⟨past, rfl, rfl, rfl⟩)) .here
  | stopped one lap ends =>
    have turn := lap.turn
    rw [verdict, ends] at turn
    rw [loop_succ (has_iff.mpr one), ← List.append_nil path]
    exact Ends.bind turn .here

/-- Iterations before a loop that comes to its end. -/
theorem Laps.ends {answers : List Answer} {p q : List (Step World)} {mid : Frame} {v : World}
    (laps : Laps call plan loop? body index frame w answers p mid v)
    (later : (loop plan.iterations.has (round call plan loop? body) (.ok true) limit
      (index + answers.length) mid v).Ends q (result, left) w') :
    (loop plan.iterations.has (round call plan loop? body) (.ok true) (limit + answers.length)
      index frame w).Ends (p ++ q) (result, left) w' := by
  induction laps with
  | nil => exact later
  | next one lap goesOn _ ih =>
    have turn := lap.turn
    rw [verdict, goesOn] at turn
    rw [List.length_cons, ← Nat.add_assoc, loop_succ (has_iff.mpr one), List.append_assoc]
    apply Ends.bind turn
    apply ih
    rwa [Nat.add_right_comm]

/-- What a loop does when it is carried out as often as it asks for. -/
theorem ends_loop :
    (loop plan.iterations.has (round call plan loop? body) (.ok true) limit 0 frame w).Ends path
        (result, left) w' ↔
      ∃ answers p q mid v, path = p ++ q ∧ answers.length < limit ∧
        Laps call plan loop? body 0 frame w answers p mid v ∧
        Halt call plan loop? body answers.length mid v q result left w' := by
  constructor
  · intro ends
    have halted := halt_of_ends (fun count _ => Nat.zero_le count) ends
    simpa only [Nat.zero_add] using halted
  · rintro ⟨answers, p, q, mid, v, rfl, fewer, laps, halt⟩
    obtain ⟨spare, rfl⟩ : ∃ spare, limit = spare + 1 + answers.length :=
      ⟨limit - answers.length - 1, by omega⟩
    apply laps.ends
    rw [Nat.zero_add]
    exact halt.ends

end Loops

/-- The iterations that a loop turns to along a path; those of loops inside of it do not count. -/
def turn? (e : Event) : Option Nat :=
  match e.layers, e.what with
  | [], .turned index => some index
  | _, _ => none

def turns (path : List (Step World)) : List Nat := (events path).filterMap turn?

section Turns

variable {α β : Type} {call : Call} {plan : Plan} {loop? : Option LoopVariable} {body : Body}
  {index limit : Nat} {frame : Frame} {w : World} {path : List (Step World)}

@[simp] theorem turns_append (p q : List (Step World)) : turns (p ++ q) = turns p ++ turns q := by
  simp [turns]

structure Plain (c : Course World α) : Prop where
  turns_eq_nil : ∀ {path d}, c.Reaches path d → turns path = []

theorem plain_done (a : α) (w : World) : Plain (done a w) := by
  constructor
  intro path d reached
  obtain ⟨rfl, _⟩ := reaches_done.mp reached
  rfl

theorem plain_sayLine (w : World) (sink : Sink) (line : String) : Plain (w.sayLine sink line) := by
  constructor
  intro path d reached
  cases reached with
  | here => rfl
  | note later =>
    obtain ⟨rfl, _⟩ := reaches_done.mp later
    rfl

theorem Plain.bind {c : Course World α} {f : α → World → Course World β} (first : Plain c)
    (later : ∀ a w, Plain (f a w)) : Plain (c.bind f) := by
  constructor
  intro path d reached
  rcases reaches_bind_cases reached with ⟨_, within, _⟩ | ⟨p, q, a, v, rfl, _, ended, after⟩
  · exact first.turns_eq_nil within
  · rw [turns_append, first.turns_eq_nil ended, (later a v).turns_eq_nil after, List.append_nil]

theorem Plain.map {c : Course World α} (h : Plain c) (f : α → β) : Plain (c.map f) :=
  h.bind fun a w => plain_done (f a) w

/-- What is part of something is no turn of the loop around. -/
theorem plain_under (c : Course World α) (layer : Layer) : Plain (c.under layer) := by
  constructor
  intro path d reached
  obtain ⟨p, _, rfl, _, _⟩ := reaches_under.mp reached
  rw [turns, events_under, List.filterMap_map, List.filterMap_eq_nil_iff]
  intro e _
  rfl

theorem plain_describe (m : Modifier) (call : Call) (frame : Frame) (w : World) :
    Plain (describe m call frame w) := by
  unfold describe
  split
  · exact plain_sayLine ..
  · exact plain_done ..

theorem plain_conclude (call : Call) (p : Policy) (answer : Answer) (frame : Frame) (w : World) :
    Plain (conclude call p answer frame w) := by
  match answer with
  | .ok true => exact (plain_describe ..).map _
  | .ok false => exact plain_done ..
  | .error f =>
    simp only [conclude, settle]
    split
    · exact plain_done ..
    · exact plain_done ..
    · exact plain_done ..
    · exact (plain_sayLine ..).map _

/-- A round tells its own turn first, and no other one. -/
theorem turns_round {r : Course World (Round Answer Frame)}
    (h : (round call plan loop? body index frame w).Reaches path r) :
    path = [] ∨ turns path = [index] := by
  have rest : Plain (if w.shutdown then
        (w.sayLine call.sink (interrupted call.action)).map fun _ => .stop (.ok false) frame
      else bodyRound call plan.policy body index (bind loop? plan.iterations index frame) w) := by
    split
    · exact (plain_sayLine ..).map _
    · exact (plain_describe ..).bind fun _ w =>
        (plain_under ..).bind fun r w => plain_conclude call plan.policy r.1 r.2 w
  cases h with
  | here => exact .inl rfl
  | @note _ _ _ tail _ later =>
    apply Or.inr
    have quiet : turns tail = [] := rest.turns_eq_nil later
    change index :: turns tail = [index]
    rw [quiet]

/-- The end of a loop is told, and is no turn. -/
theorem plain_finished (w : World) (answer : Answer) (r : α) :
    Plain ((w.tell (.finished answer)).map fun _ => r) := by
  constructor
  intro path d reached
  cases reached with
  | here => rfl
  | note later =>
    obtain ⟨rfl, _⟩ := reaches_done.mp later
    rfl

/-- A loop turns to one iteration after the other, and to none beyond those it is asked for. -/
theorem turns_loop {c : Course World (Answer × Frame)}
    (h : (loop plan.iterations.has (round call plan loop? body) (.ok true) limit index frame
      w).Reaches path c) :
    ∃ n, turns path = List.range' index n ∧
      ∀ count, plan.iterations.count? = some count → n = 0 ∨ index + n ≤ count := by
  induction limit generalizing index frame w path with
  | zero =>
    obtain ⟨rfl, _⟩ := reaches_stuck.mp h
    exact ⟨0, rfl, fun _ _ => .inl rfl⟩
  | succ limit ih =>
    by_cases one : plan.iterations.has index = true
    · have within : ∀ count, plan.iterations.count? = some count → index < count := has_iff.mp one
      rw [loop_succ one] at h
      rcases reaches_bind_cases h with ⟨_, first, _⟩ | ⟨p, q, r, v, rfl, _, ended, later⟩
      · rcases turns_round first with rfl | turned
        · exact ⟨0, rfl, fun _ _ => .inl rfl⟩
        · exact ⟨1, turned, fun count known => .inr (within count known)⟩
      · have turned : turns p = [index] := by
          rcases turns_round ended with rfl | turned
          · cases ended
          · exact turned
        cases r with
        | next mid =>
          obtain ⟨n, more, upTo⟩ := ih later
          refine ⟨n + 1, ?_, fun count known => ?_⟩
          · rw [turns_append, turned, more, List.range'_succ, List.singleton_append]
          · have this := within count known
            have rest := upTo count known
            omega
        | stop result left =>
          obtain ⟨rfl, _⟩ := reaches_done.mp later
          rw [List.append_nil]
          exact ⟨1, turned, fun count known => .inr (within count known)⟩
    · simp only [loop, one] at h
      obtain ⟨rfl, _⟩ := reaches_done.mp h
      exact ⟨0, rfl, fun _ _ => .inl rfl⟩

theorem turns_of_loop {c : Course World (Answer × Frame)}
    (h : (loop plan.iterations.has (round call plan loop? body) (.ok true) limit 0 frame
      w).Reaches path c) :
    ∃ n, turns path = List.range n ∧ ∀ count, plan.iterations.count? = some count → n ≤ count := by
  obtain ⟨n, inOrder, upTo⟩ := turns_loop h
  refine ⟨n, inOrder.trans (List.range_eq_range' ..).symm, fun count known => ?_⟩
  have within := upTo count known
  omega

end Turns

end Iteration

section Plans

variable {d : Descriptor} {plan : Plan}

theorem readNonBlank_eq_ok {α : Type} {text : Option String} {parse : String → Option α}
    {fault : String → PlanFault} {value? : Option α}
    (h : readNonBlank text parse fault = .ok value?) :
    value?.isSome = (text.bind Text.nonBlank).isSome := by
  unfold readNonBlank at h
  split at h
  · rename_i blank
    cases h
    rw [blank]
    rfl
  · rename_i t some
    split at h
    · cases h
      rw [some]
      rfl
    · cases h

theorem Policy.isSome_repeatUntil {p : Policy} (h : Policy.resolve d = .ok p) :
    p.repeatUntil.isSome = (d.repeatUntil.bind Text.nonBlank).isSome := by
  obtain ⟨value?, until_, h⟩ := bind_eq_ok h
  obtain ⟨ignored, _, h⟩ := bind_eq_ok h
  cases h
  exact readNonBlank_eq_ok until_

theorem Plan.resolve_eq_ok (h : Plan.resolve d = .ok plan) :
    Policy.resolve d = .ok plan.policy ∧
      Iterations.resolve d plan.policy = .ok plan.iterations := by
  obtain ⟨policy, known, h⟩ := bind_eq_ok h
  obtain ⟨iterations, counted, h⟩ := bind_eq_ok h
  obtain ⟨_, _, h⟩ := bind_eq_ok h
  obtain ⟨_, _, h⟩ := bind_eq_ok h
  cases h
  exact ⟨known, counted⟩

/-- The iterations of a plan are those that the action asks for. -/
theorem Descriptor.asks_of_resolve (h : Plan.resolve d = .ok plan) :
    ∃ value?, d.Asks plan.iterations.count? value? ∧ ∀ index, plan.iterations.has index = true →
      value? index =
        if plan.iterations.binds then some (plan.iterations.value index) else none := by
  obtain ⟨policy, iterations⟩ := Plan.resolve_eq_ok h
  have until_ := Policy.isSome_repeatUntil policy
  unfold Iterations.resolve at iterations
  split at iterations
  · rename_i _ values foreach
    obtain same : _ = plan.iterations := Except.ok.inj iterations
    rw [← same]
    refine ⟨_, .each foreach, fun index one => ?_⟩
    have bound : index < (Text.words values).length := by
      simpa [Iterations.has, Iterations.count?] using one
    simp [Iterations.binds, Iterations.value, List.getElem?_eq_getElem bound]
  · rename_i text noValues repeats
    split at iterations
    · rename_i count numeral
      obtain same : _ = plan.iterations := Except.ok.inj iterations
      rw [← same]
      exact ⟨_, .times noValues repeats numeral, fun _ _ => rfl⟩
    · cases iterations
  · rename_i noValues noCount
    obtain same : _ = plan.iterations := Except.ok.inj iterations
    rw [← same, until_]
    cases awaited : d.repeatUntil.bind Text.nonBlank with
    | none => exact ⟨_, .once noValues noCount awaited, fun _ _ => rfl⟩
    | some text => exact ⟨_, .unbounded noValues noCount awaited, fun _ _ => rfl⟩

theorem ne_iterationName (name : String) : name ≠ iterationName name := by
  intro same
  have lengths := congrArg String.length same
  simp [iterationName] at lengths

/-- The loop variable is bound anew in each iteration, whatever the frame has become. -/
theorem Iteration.bound_bind (name : String) (it : Iterations) (vars : Variables) (index : Nat)
    (frame : Frame) :
    Bound name (some (it.value index)) index frame
      (bind (some (.save vars name)) it index frame) := by
  have apart : name ≠ iterationName name := ne_iterationName name
  refine ⟨?_, ?_, fun x other companion => ?_, rfl, rfl⟩
  · change ((frame.vars.set name _).set (iterationName name) _).get? name = _
    rw [Table.get?_set_other _ _ apart, Table.get?_set_same]
  · exact Table.get?_set_same ..
  · change ((frame.vars.set name _).set (iterationName name) _).get? x = _
    rw [Table.get?_set_other _ _ companion, Table.get?_set_other _ _ other]

end Plans

namespace Action

variable {perform : Performer} {e : Engine} {call : Call} {d : Descriptor} {plan : Plan}
  {frame left opened : Frame} {w w' : World} {path : List (Step World)} {answer : Answer}

/-- Carrying out an action is its loop, after a warning and a wait. -/
theorem all_of_carryOut (planned : Plan.resolve d = .ok plan) {r : Answer × Frame}
    (h : (carryOut perform e call d frame w).Ends path r w') :
    ∃ before inside v, path = before ++ inside ∧
      (∀ x ∈ events before, ∃ text, x = ⟨[], .wrote call.sink text⟩) ∧
      (Iteration.all call d.loopName plan (dispatch perform e (inner call plan.policy)) e.limit
        frame v).Ends inside r w' := by
  simp only [carryOut, planned] at h
  obtain ⟨before, inside, _, v, rfl, begun, looped⟩ := ends_bind.mp h
  refine ⟨before, inside, v, rfl, fun x member => ?_, looped⟩
  obtain ⟨warned, waited, _, _, rfl, warning, postponed⟩ := ends_bind.mp begun
  have quiet : events waited = [] := by
    rcases ends_postpone postponed with ⟨rfl, _⟩ | ⟨_, rfl⟩ <;> rfl
  rw [events_append, quiet, List.append_nil] at member
  exact (said_warn warning).event member

/-- With its outlet an action comes to the answer of its loop. -/
theorem all_of_went (planned : Plan.resolve d = .ok plan) {outlet : Outlet}
    (h : Went (fun sink => carryOut perform e { call with sink } d) call.sink outlet opened w path
      (answer, left) w') :
    ∃ before inside v final v', events path = before ++ events inside ∧
      (∀ x ∈ before, ∃ text, x = ⟨[], .wrote (outlet.sink call.sink) text⟩) ∧
      (Iteration.all { call with sink := outlet.sink call.sink } d.loopName plan
        (dispatch perform e (inner { call with sink := outlet.sink call.sink } plan.policy))
        e.limit opened v).Ends inside (answer, final) v' := by
  cases h with
  | plain _ ran =>
    obtain ⟨before, inside, v, rfl, said, looped⟩ := all_of_carryOut planned ran
    exact ⟨events before, inside, v, left, w', events_append before inside, said, looped⟩
  | captured capture ran alike _ =>
    obtain ⟨before, inside, v, rfl, said, looped⟩ := all_of_carryOut planned ran
    subst capture
    refine ⟨events before, inside, v, _, _, ?_, said, looped⟩
    rw [alike.events, events_append]

end Action

open Iteration in
/-- The loop of an action whose plan resolves, for every body, whatever that comes to and changes.

The loop comes to its end along a path just when it has gone through iterations from zero on, in
each of which the body was run and came to an answer after which the loop goes on, and has halted
then: as the iterations that the action asks for are exhausted, after the shutdown, or with an
iteration whose answer ends the loop. All it takes is that the loop may go round so often. Along
every path, however far it goes, the loop turns to the iterations in order, none of them twice, and
to no more than there are. Each of them begins with the loop variable bound to its value.

The answer of an invocation is that of such a loop over its target, unless its output cannot be
opened; all it does is part of the loop, but for what is written before. -/
theorem iterations_of_an_action {d : Descriptor} {plan : Plan}
    (planned : Plan.resolve d = .ok plan) :
    ∃ value?, d.Asks plan.iterations.count? value? ∧
      (∀ vars frame index, (∀ count, plan.iterations.count? = some count → index < count) →
        Bound d.loopName (value? index) index frame
          (bind (saved? d.loopName plan vars) plan.iterations index frame)) ∧
      (∀ call body limit frame w path result final w',
        (all call d.loopName plan body limit frame w).Ends path (result, final) w' ↔
          let loop? := saved? d.loopName plan frame.vars
          ∃ answers p q mid v left, answers.length < limit ∧
            Laps call plan loop? body 0 frame w answers p mid v ∧
            Halt call plan loop? body answers.length mid v q result left w' ∧
            path = p ++ (q ++ [.event ⟨[], .finished result⟩ w']) ∧
            final = restore loop? left) ∧
      (∀ call body limit frame w path c,
        (all call d.loopName plan body limit frame w).Reaches path c →
          ∃ n, turns path = List.range n ∧
            ∀ count, plan.iterations.count? = some count → n ≤ count) ∧
      ∀ perform e call frame w path result left w',
        d = .read frame.control call.action frame.vars →
        (Action.invoke perform e call frame w).Ends path (result, left) w' →
        ∃ outlet? opened told v,
          Outlet.Resolved d call.sink frame (w.count "actions.executed") told (outlet?, opened) v ∧
          match outlet? with
          | none => result = .ok false ∧ events path = ⟨[], .invoked d⟩ :: events told
          | some outlet =>
            let call := { call with sink := outlet.sink call.sink }
            ∃ before inside v final v',
              (all call d.loopName plan
                (Action.dispatch perform e (Action.inner call plan.policy)) e.limit opened v).Ends
                inside (result, final) v' ∧
              (∀ x ∈ before, ∃ text, x = ⟨[], .wrote call.sink text⟩) ∧
              events path = ⟨[], .invoked d⟩ :: (events told ++
                (before ++ events inside).map (Event.under (.action ⟨d, outlet⟩))) := by
  obtain ⟨value?, asks, values⟩ := Descriptor.asks_of_resolve planned
  refine ⟨value?, asks, fun vars frame index one => ?_,
    fun call body limit frame w path result final w' => ?_,
    fun call body limit frame w path c reached => ?_,
    fun perform e call frame w path result left w' read ends => ?_⟩
  · rw [values index (has_iff.mpr one)]
    cases binds : plan.iterations.binds with
    | true => simpa [saved?, binds] using bound_bind d.loopName plan.iterations vars index frame
    | false => simp [saved?, binds, Bound, Iteration.bind]
  · constructor
    · intro ends
      obtain ⟨_, last, ⟨answer, left⟩, _, rfl, looped, finished⟩ := ends_bind.mp ends
      obtain ⟨_, told, same⟩ := ends_map.mp finished
      obtain ⟨rfl, rfl⟩ := Prod.mk.inj same
      obtain ⟨rfl, rfl⟩ := ends_tell.mp told
      obtain ⟨answers, p, q, mid, v, rfl, fewer, laps, halt⟩ := ends_loop.mp looped
      exact ⟨answers, p, q, mid, v, left, fewer, laps, halt, List.append_assoc .., rfl⟩
    · rintro ⟨answers, p, q, mid, v, left, fewer, laps, halt, rfl, rfl⟩
      rw [← List.append_assoc]
      have looped := ends_loop.mpr ⟨answers, p, q, mid, v, rfl, fewer, laps, halt⟩
      exact Ends.bind looped (ends_map.mpr ⟨(), ends_tell.mpr ⟨rfl, rfl⟩, rfl⟩)
  · rcases reaches_bind_cases reached with ⟨_, within, _⟩ | ⟨p, q, r, v, rfl, _, ended, last⟩
    · exact turns_of_loop within
    · have quiet : Plain ((v.tell (.finished r.1)).map fun _ =>
          (r.1, restore (saved? d.loopName plan frame.vars) r.2)) := plain_finished ..
      rw [turns_append, quiet.turns_eq_nil last, List.append_nil]
      exact turns_of_loop ended
  · cases Action.ran ends with
    | refused read' resolved =>
      obtain rfl := read.trans read'.symm
      exact ⟨none, left, _, w', resolved, rfl, rfl⟩
    | @ran _ outlet told inside opened _ _ v _ read' resolved went =>
      obtain rfl := read.trans read'.symm
      obtain ⟨before, inner, v', final, _, whole, said, looped⟩ := Action.all_of_went planned went
      refine ⟨some outlet, opened, told, v, resolved, before, inner, v', final, _, looped, said, ?_⟩
      rw [events_event, events_append, events_under, whole]

def Descriptor.twice : Descriptor where
  name := "a"
  repeats := some "2"
  foreach := none
  repeatUntil := none
  ignore := none
  loopVariable := none
  postponeUntil := none
  outputFile := none
  assign := none
  repeatEvery := none

/-- No more than two iterations, whatever the body does. -/
theorem iterations_of_an_action_twice :
    let plan : Plan := ⟨⟨none, none⟩, .times 2, none, none, none⟩
    Plan.resolve .twice = .ok plan ∧
      ∀ call body limit frame w path c,
        (Iteration.all call "a" plan body limit frame w).Reaches path c →
          ∃ n, Iteration.turns path = List.range n ∧ n ≤ 2 := by
  intro plan
  have planned : Plan.resolve .twice = .ok plan := by rfl
  obtain ⟨_, _, _, _, reaches, _⟩ := iterations_of_an_action planned
  refine ⟨planned, fun call body limit frame w path c reached => ?_⟩
  obtain ⟨n, inOrder, upTo⟩ := reaches call body limit frame w path c reached
  exact ⟨n, inOrder, upTo 2 rfl⟩

end Runbook
