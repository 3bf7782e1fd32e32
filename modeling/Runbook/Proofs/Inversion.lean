import Runbook.Proofs.Telling
import Runbook.Run.Action
/-! What runs that have come to their end consist of. There is one statement for each part of a
run; it says all that the part can do, so that what holds of whole runs follows by cases. -/
namespace Runbook

open Course

inductive Said (sink : Sink) (w : World) : List (Step World) → World → Prop
  | nothing : Said sink w [] w
  | line (text : String) :
      Said sink w [.event ⟨[], .wrote sink (text ++ "\n")⟩ (w.writeLine sink text)]
        (w.writeLine sink text)

section Said

variable {w w' : World} {sink : Sink} {path : List (Step World)} {u : Unit}

theorem ends_tell {what : Happening} :
    (w.tell what).Ends path u w' ↔ path = [.event ⟨[], what⟩ w] ∧ w' = w := by
  rw [World.tell_eq, ends_after_done]
  constructor
  · rintro ⟨rfl, -, rfl⟩
    exact ⟨rfl, rfl⟩
  · rintro ⟨rfl, rfl⟩
    exact ⟨rfl, rfl, rfl⟩

theorem ends_sayLine {line : String} :
    (w.sayLine sink line).Ends path u w' ↔
      path = [.event ⟨[], .wrote sink (line ++ "\n")⟩ w'] ∧ w' = w.writeLine sink line := by
  rw [World.sayLine_eq, ends_after_done]
  constructor
  · rintro ⟨rfl, -, rfl⟩
    exact ⟨rfl, rfl⟩
  · rintro ⟨rfl, rfl⟩
    exact ⟨rfl, rfl, rfl⟩

theorem said_of_sayLine {line : String} (h : (w.sayLine sink line).Ends path u w') :
    Said sink w path w' := by
  obtain ⟨rfl, rfl⟩ := ends_sayLine.mp h
  exact .line line

theorem said_of_done (h : (done u w).Ends path u w') : Said sink w path w' := by
  obtain ⟨rfl, _, rfl⟩ := ends_done.mp h
  exact .nothing

theorem Iteration.said_describe {m : Modifier} {call : Call} {frame : Frame}
    (h : (describe m call frame w).Ends path u w') : Said call.sink w path w' := by
  unfold describe at h
  split at h
  · exact said_of_sayLine h
  · exact said_of_done h

theorem Action.said_warn {call : Call} {plan : Plan}
    (h : (warn call plan w).Ends path u w') : Said call.sink w path w' := by
  unfold warn at h
  split at h
  · exact said_of_sayLine h
  · exact said_of_done h

/-- What a sink is told is all that happens. -/
theorem Said.event (h : Said sink w path w') {e : Event} (member : e ∈ events path) :
    ∃ text, e = ⟨[], .wrote sink text⟩ := by
  cases h with
  | nothing => simp at member
  | line text => exact ⟨_, by simpa [events, Step.event?] using member⟩

theorem ends_postpone {time? : Option TimeOfDay} (h : (w.postpone time?).Ends path u w') :
    (path = [] ∧ w' = w) ∨ ∃ reason, path = [.waited reason w.settle w'] := by
  unfold World.postpone at h
  split at h
  · unfold World.pause at h
    split at h
    · obtain ⟨rfl, _, rfl⟩ := ends_done.mp h
      exact .inl ⟨rfl, rfl⟩
    · obtain ⟨now, rest, rfl, ended⟩ := ends_wait.mp h
      obtain ⟨rfl, _, rfl⟩ := ends_done.mp ended
      exact .inr ⟨_, rfl⟩
  · obtain ⟨rfl, _, rfl⟩ := ends_done.mp h
    exact .inl ⟨rfl, rfl⟩

end Said

/-- Where an action turns out to write. -/
inductive Outlet.Resolved (d : Descriptor) (caller : Sink) (frame : Frame) (w : World) :
    List (Step World) → Option Outlet × Frame → World → Prop
  | caller (noFile : d.outputPath? = none) (noName : d.assignName? = none) :
      Resolved d caller frame w [] (some .caller, frame) w
  | capture {name : String} (noFile : d.outputPath? = none)
      (named : d.assignName? = some name) :
      Resolved d caller frame w [] (some (.capture name), frame) w
  | file {output : String} {path : List (Step World)} {told after : World} {frame' : Frame}
      (named : d.outputPath? = some output) (warned : Said caller w path told)
      (opened : openFile output frame told = .ok (frame', after)) :
      Resolved d caller frame w path (some (.file output), frame') after
  | refused {output : String} {path last : List (Step World)} {told after : World}
      (named : d.outputPath? = some output) (warned : Said caller w path told)
      (said : Said caller told last after) :
      Resolved d caller frame w (path ++ last) (none, frame) after

/-- Opening a file changes nothing but what is open. -/
theorem Outlet.openFile_eq_ok {output : String} {frame frame' : Frame} {w w' : World}
    (h : openFile output frame w = .ok (frame', w')) :
    ∃ opened files, frame' = { frame with opened } ∧ w' = { w with files } := by
  unfold openFile at h
  split at h
  · obtain ⟨rfl, rfl⟩ := Prod.mk.inj (Except.ok.inj h)
    exact ⟨_, _, rfl, rfl⟩
  · cases opened : w.files.openAppend output with
    | error fault => simp [opened, Except.map] at h
    | ok files =>
      obtain ⟨rfl, rfl⟩ : _ = frame' ∧ _ = w' := by simpa [opened, Except.map] using h
      exact ⟨_, _, rfl, rfl⟩

/-- The caller is told, and nothing else happens. -/
theorem Outlet.Resolved.event {d : Descriptor} {caller : Sink} {frame : Frame} {w w' : World}
    {path : List (Step World)} {r : Option Outlet × Frame}
    (h : Resolved d caller frame w path r w') {e : Event} (member : e ∈ events path) :
    ∃ text, e = ⟨[], .wrote caller text⟩ := by
  cases h with
  | caller | capture => simp at member
  | file _ warned _ => exact warned.event member
  | refused _ warned said =>
    rw [events_append, List.mem_append] at member
    exact member.elim warned.event said.event

theorem Outlet.resolved {d : Descriptor} {caller : Sink} {frame : Frame} {w w' : World}
    {path : List (Step World)} {r : Option Outlet × Frame}
    (h : (resolve d caller frame w).Ends path r w') : Resolved d caller frame w path r w' := by
  unfold resolve at h
  split at h
  · obtain ⟨rfl, rfl, rfl⟩ := ends_done.mp h
    exact .capture ‹_› ‹_›
  · obtain ⟨rfl, rfl, rfl⟩ := ends_done.mp h
    exact .caller ‹_› ‹_›
  · obtain ⟨p, q, ⟨⟩, told, rfl, first, later⟩ := ends_bind.mp h
    have warned : Said caller w p told := by
      split at first
      · exact said_of_sayLine first
      · exact said_of_done first
    split at later
    · obtain ⟨rfl, rfl, rfl⟩ := ends_done.mp later
      rw [List.append_nil]
      exact .file ‹_› warned ‹_›
    · obtain ⟨_, said, rfl⟩ := ends_map.mp later
      exact .refused ‹_› warned (said_of_sayLine said)

def Round.value {α β : Type} : Round α β → β
  | .next b => b
  | .stop _ b => b

namespace Iteration

inductive Concluded (call : Call) (p : Policy) (frame : Frame) (w : World) :
    Answer → List (Step World) → Round Answer Frame → World → Prop
  | succeeded {path : List (Step World)} {w' : World} (said : Said call.sink w path w') :
      Concluded call p frame w (.ok true) path (.next frame) w'
  | failed : Concluded call p frame w (.ok false) [] (.stop (.ok false) frame) w
  | terminated {f : Failure} {kind : Kind} (by_ : p.classify f call.throws = .terminate kind) :
      Concluded call p frame w (.error f) [] (.stop (.ok true) frame) w
  | ignored {f : Failure} {kind : Kind} (by_ : p.classify f call.throws = .ignore kind) :
      Concluded call p frame w (.error f) [] (.next frame) w
  | propagated {f g : Failure} (by_ : p.classify f call.throws = .propagate g) :
      Concluded call p frame w (.error f) [] (.stop (.error g) frame) w
  | reported {f g : Failure} (by_ : p.classify f call.throws = .report g) :
      Concluded call p frame w (.error f)
        [.event ⟨[], .wrote call.sink (Iteration.failed call.action g ++ "\n")⟩
          (w.writeLine call.sink (Iteration.failed call.action g))]
        (.stop (.ok false) frame) (w.writeLine call.sink (Iteration.failed call.action g))

/-- The end of an iteration writes one line at most. -/
theorem Concluded.said {call : Call} {p : Policy} {frame : Frame} {w w' : World} {answer : Answer}
    {path : List (Step World)} {r : Round Answer Frame}
    (h : Concluded call p frame w answer path r w') : Said call.sink w path w' := by
  cases h with
  | succeeded said => exact said
  | reported => exact .line _
  | _ => exact .nothing

theorem Concluded.value {call : Call} {p : Policy} {frame : Frame} {w w' : World}
    {answer : Answer} {path : List (Step World)} {r : Round Answer Frame}
    (h : Concluded call p frame w answer path r w') : r.value = frame := by
  cases h <;> rfl

theorem concluded {call : Call} {p : Policy} {answer : Answer} {frame : Frame} {w w' : World}
    {path : List (Step World)} {r : Round Answer Frame}
    (h : (conclude call p answer frame w).Ends path r w') :
    Concluded call p frame w answer path r w' := by
  match answer with
  | .ok true =>
    obtain ⟨_, described, rfl⟩ := ends_map.mp h
    exact .succeeded (said_describe described)
  | .ok false =>
    obtain ⟨rfl, rfl, rfl⟩ := ends_done.mp h
    exact .failed
  | .error f =>
    simp only [conclude, settle] at h
    split at h
    · obtain ⟨rfl, rfl, rfl⟩ := ends_done.mp h
      exact .terminated ‹_›
    · obtain ⟨rfl, rfl, rfl⟩ := ends_done.mp h
      exact .ignored ‹_›
    · obtain ⟨rfl, rfl, rfl⟩ := ends_done.mp h
      exact .propagated ‹_›
    · obtain ⟨_, said, rfl⟩ := ends_map.mp h
      obtain ⟨rfl, rfl⟩ := ends_sayLine.mp said
      exact .reported ‹_›

/-- What one iteration has done. -/
inductive Rounded (call : Call) (plan : Plan) (loop? : Option LoopVariable) (body : Body)
    (index : Nat) (frame : Frame) (w : World) :
    List (Step World) → Round Answer Frame → World → Prop
  | interrupted {path : List (Step World)} {w' : World} (past : w.shutdown = true)
      (said : Said call.sink w path w') :
      Rounded call plan loop? body index frame w (.event ⟨[], .turned index⟩ w :: path)
        (.stop (.ok false) frame) w'
  | ran {before inside last : List (Step World)} {w₁ w₂ w' : World} {answer : Answer}
      {left : Frame} {r : Round Answer Frame} (running : w.shutdown = false)
      (said : Said call.sink w before w₁)
      (ran : (body (bind loop? plan.iterations index frame) w₁).Ends inside (answer, left) w₂)
      (concluded : Concluded call plan.policy left w₂ answer last r w') :
      Rounded call plan loop? body index frame w
        (.event ⟨[], .turned index⟩ w ::
          (before ++ (inside.map (Step.under (.round index)) ++ last))) r w'

theorem rounded {call : Call} {plan : Plan} {loop? : Option LoopVariable} {body : Body}
    {index : Nat} {frame : Frame} {w w' : World} {path : List (Step World)}
    {r : Round Answer Frame} (h : (round call plan loop? body index frame w).Ends path r w') :
    Rounded call plan loop? body index frame w path r w' := by
  obtain ⟨_, rest, _, w, rfl, turned, later⟩ := ends_bind.mp h
  obtain ⟨rfl, rfl⟩ := ends_tell.mp turned
  by_cases past : w.shutdown = true
  · simp only [past, if_true] at later
    obtain ⟨_, said, rfl⟩ := ends_map.mp later
    exact .interrupted past (said_of_sayLine said)
  · simp only [past] at later
    obtain ⟨before, _, _, _, rfl, described, later⟩ := ends_bind.mp later
    obtain ⟨_, last, ⟨answer, left⟩, _, rfl, inside, ended⟩ := ends_bind.mp later
    obtain ⟨inside, rfl, ran⟩ := ends_under.mp inside
    exact .ran (by simpa using past) (said_describe described) ran (concluded ended)

end Iteration

inductive Looped {σ α β : Type} (has : Nat → Bool)
    (round : Nat → β → σ → Course σ (Round α β)) (result : α) :
    Nat → β → σ → List (Step σ) → α × β → σ → Prop
  | ended {index : Nat} {b : β} {s : σ} (none : has index = false) :
      Looped has round result index b s [] (result, b) s
  | next {index : Nat} {b c : β} {s t u : σ} {path rest : List (Step σ)} {r : α × β}
      (one : has index = true) (went : (round index b s).Ends path (.next c) t)
      (later : Looped has round result (index + 1) c t rest r u) :
      Looped has round result index b s (path ++ rest) r u
  | stopped {index : Nat} {a : α} {b c : β} {s t : σ} {path : List (Step σ)}
      (one : has index = true) (went : (round index b s).Ends path (.stop a c) t) :
      Looped has round result index b s path (a, c) t

theorem looped {σ α β : Type} {has : Nat → Bool} {round : Nat → β → σ → Course σ (Round α β)}
    {result : α} {limit index : Nat} {b : β} {s t : σ} {path : List (Step σ)} {r : α × β}
    (h : (loop has round result limit index b s).Ends path r t) :
    Looped has round result index b s path r t := by
  induction limit generalizing index b s path with
  | zero => simp [loop] at h
  | succ limit ih =>
    by_cases one : has index = true
    · rw [loop_succ one] at h
      obtain ⟨_, rest, reached, _, rfl, went, later⟩ := ends_bind.mp h
      cases reached with
      | next c => exact .next one went (ih later)
      | stop a c =>
        obtain ⟨rfl, rfl, rfl⟩ := ends_done.mp later
        rw [List.append_nil]
        exact .stopped one went
    · simp only [loop, one] at h
      obtain ⟨rfl, rfl, rfl⟩ := ends_done.mp h
      exact .ended (by simpa using one)

namespace Action

section Runs

variable {perform : Performer} {e : Engine} {call : Call} {frame : Frame} {w w' : World}
  {path : List (Step World)} {r : Answer × Frame}

inductive Blocked (run : Runner) (call : Call) :
    List String → Frame → World → List (Step World) → Answer × Frame → World → Prop
  | ended {frame : Frame} {w : World} : Blocked run call [] frame w [] (.ok true, frame) w
  | next {name : String} {names : List String} {frame left : Frame} {w w₁ w' : World}
      {path rest : List (Step World)} {r : Answer × Frame}
      (ran : (run { call with action := name } frame w).Ends path (.ok true, left) w₁)
      (later : Blocked run call names left w₁ rest r w') :
      Blocked run call (name :: names) frame w (path ++ rest) r w'
  | stopped {name : String} {names : List String} {frame left : Frame} {w w' : World}
      {path : List (Step World)} {answer : Answer}
      (ran : (run { call with action := name } frame w).Ends path (answer, left) w')
      (other : answer ≠ .ok true) :
      Blocked run call (name :: names) frame w path (answer, left) w'

theorem blocked {run : Runner} {names : List String}
    (h : (block run call names frame w).Ends path r w') :
    Blocked run call names frame w path r w' := by
  induction names generalizing frame w path with
  | nil =>
    obtain ⟨rfl, rfl, rfl⟩ := ends_done.mp h
    exact .ended
  | cons name names ih =>
    obtain ⟨_, rest, ⟨answer, left⟩, _, rfl, ran, later⟩ := ends_bind.mp h
    match answer with
    | .ok true => exact .next ran (ih later)
    | .ok false | .error _ =>
      obtain ⟨rfl, rfl, rfl⟩ := ends_done.mp later
      rw [List.append_nil]
      exact .stopped ran (by simp)

/-- What a command has done: all but its start and its failure is its own. -/
inductive Commanded (perform : Performer) (e : Engine) (c : Command) (args : List String)
    (sink : Sink) (w : World) : List (Step World) → Answer → World → Prop
  | answered {inside : List (Step World)} {success : Bool} {w' : World}
      (ran : (perform e c args sink w).Ends inside (.ok success) w') :
      Commanded perform e c args sink w
        (.event ⟨[], .started c args⟩ w :: inside.map (Step.under (.command c))) (.ok success) w'
  | raised {inside : List (Step World)} {f : Failure} {w' : World}
      (ran : (perform e c args sink w).Ends inside (.error f) w') :
      Commanded perform e c args sink w
        (.event ⟨[], .started c args⟩ w ::
          (inside.map (Step.under (.command c)) ++ [.event ⟨[], .raised f⟩ w'])) (.error f) w'

theorem commanded {c : Command} {args : List String} {sink : Sink} {answer : Answer}
    (h : (command perform e c args sink w).Ends path answer w') :
    Commanded perform e c args sink w path answer w' := by
  obtain ⟨_, rest, _, w, rfl, started, later⟩ := ends_bind.mp h
  obtain ⟨rfl, rfl⟩ := ends_tell.mp started
  obtain ⟨_, last, answer, _, rfl, inside, ended⟩ := ends_bind.mp later
  obtain ⟨inside, rfl, ran⟩ := ends_under.mp inside
  match answer with
  | .ok success =>
    obtain ⟨rfl, rfl, rfl⟩ := ends_done.mp ended
    rw [List.append_nil]
    exact .answered ran
  | .error f =>
    obtain ⟨_, raised, rfl⟩ := ends_map.mp ended
    obtain ⟨rfl, rfl⟩ := ends_tell.mp raised
    exact .raised ran

inductive Dispatched (perform : Performer) (e : Engine) (call : Call) (frame : Frame)
    (w : World) : List (Step World) → Answer × Frame → World → Prop
  | block {names : List String} {path : List (Step World)} {r : Answer × Frame} {w' : World}
      (ran : Blocked e.run call names frame w path r w') :
      Dispatched perform e call frame w path r w'
  | command {c : Command} {args : List String} {path : List (Step World)} {answer : Answer}
      {w' : World} (ran : Commanded perform e c args call.sink w path answer w') :
      Dispatched perform e call frame w path (answer, frame) w'
  | other {name : String} {path : List (Step World)} {r : Answer × Frame} {w' : World}
      (ran : (e.run { call with action := name } frame w).Ends path r w') :
      Dispatched perform e call frame w path r w'
  | missing {path : List (Step World)} {w' : World} (said : Said call.sink w path w') :
      Dispatched perform e call frame w path (.ok false, frame) w'

theorem dispatched (h : (dispatch perform e call frame w).Ends path r w') :
    Dispatched perform e call frame w path r w' := by
  simp only [dispatch] at h
  split at h
  · exact .block (blocked h)
  split at h
  · obtain ⟨answer, ran, rfl⟩ := ends_map.mp h
    exact .command (commanded ran)
  split at h
  · exact .other h
  · obtain ⟨_, said, rfl⟩ := ends_map.mp h
    exact .missing (said_of_sayLine said)

inductive Carried (perform : Performer) (e : Engine) (call : Call) (d : Descriptor)
    (frame : Frame) (w : World) : List (Step World) → Answer × Frame → World → Prop
  | unplanned {fault : PlanFault} {path : List (Step World)} {w' : World}
      (none : Plan.resolve d = .error fault) (said : Said call.sink w path w') :
      Carried perform e call d frame w path (.ok false, frame) w'
  | ran {plan : Plan} {before pause inside : List (Step World)} {w₁ w₂ w' : World}
      {answer : Answer} {left : Frame} (planned : Plan.resolve d = .ok plan)
      (warned : Said call.sink w before w₁)
      (waited : (pause = [] ∧ w₂ = w₁) ∨ ∃ reason, pause = [.waited reason w₁.settle w₂])
      (went : Looped plan.iterations.has
        (Iteration.round call plan (Iteration.saved? d.loopName plan frame.vars)
          (dispatch perform e (inner call plan.policy)))
        (.ok true) 0 frame w₂ inside (answer, left) w') :
      Carried perform e call d frame w
        (before ++ (pause ++ (inside ++ [.event ⟨[], .finished answer⟩ w'])))
        (answer, Iteration.restore (Iteration.saved? d.loopName plan frame.vars) left) w'

theorem carried {d : Descriptor} (h : (carryOut perform e call d frame w).Ends path r w') :
    Carried perform e call d frame w path r w' := by
  simp only [carryOut] at h
  split at h
  · obtain ⟨_, said, rfl⟩ := ends_map.mp h
    exact .unplanned ‹_› (said_of_sayLine said)
  · obtain ⟨_, rest, _, w₂, rfl, begun, later⟩ := ends_bind.mp h
    obtain ⟨before, pause, _, w₁, rfl, warned, waited⟩ := ends_bind.mp begun
    obtain ⟨inside, last, ⟨answer, left⟩, _, rfl, went, ended⟩ := ends_bind.mp later
    obtain ⟨_, finished, rfl⟩ := ends_map.mp ended
    obtain ⟨rfl, rfl⟩ := ends_tell.mp finished
    rw [List.append_assoc]
    exact .ran ‹_› (said_warn warned) (ends_postpone waited) (looped went)

def captureInto (name text : String) (answer : Answer) (left : Frame) : Frame :=
  match answer with
  | .ok true => left.setVar name (Text.trimEnd text)
  | _ => left

theorem capturing_eq (name : String) (body : Body) (frame : Frame) (w : World) :
    capturing name body frame w = (collecting (body frame) w).map fun r =>
      (r.1.1, captureInto name r.2 r.1.1 r.1.2) := by
  refine congrArg (Course.map · _) (funext fun r => ?_)
  obtain ⟨⟨answer, left⟩, text⟩ := r
  match answer with
  | .ok true | .ok false | .error _ => rfl

/-- A repetition that is asked for changes nothing but what is repeated. -/
theorem schedule_eq (d : Descriptor) (frame : Frame) (w : World) :
    ∃ repetitions starting, schedule d frame w = { w with repetitions, starting } := by
  unfold schedule World.repeatAction
  split
  · split <;> exact ⟨_, _, rfl⟩
  · exact ⟨_, _, rfl⟩

def scheduled (d : Descriptor) (answer : Answer) (left : Frame) (w : World) : World :=
  match answer with
  | .ok true => schedule d left w
  | _ => w

inductive Went (body : Sink → Body) (caller : Sink) (outlet : Outlet) (frame : Frame)
    (w : World) : List (Step World) → Answer × Frame → World → Prop
  | plain {path : List (Step World)} {r : Answer × Frame} {w' : World}
      (direct : outlet.captures = false)
      (ran : (body (outlet.sink caller) frame w).Ends path r w') :
      Went body caller outlet frame w path r w'
  | captured {name : String} {path inside : List (Step World)} {answer : Answer} {left : Frame}
      {w₁ w' : World} (capture : outlet = .capture name)
      (ran : (body .text frame { w with text := "" }).Ends inside (answer, left) w₁)
      (alike : Alike inside path) (rest : w' = { w₁ with text := w'.text }) :
      Went body caller outlet frame w path
        (answer, captureInto name w₁.text answer left) w'

theorem went {body : Sink → Body} {caller : Sink} {outlet : Outlet}
    (h : (through body caller outlet frame w).Ends path r w') :
    Went body caller outlet frame w path r w' := by
  cases outlet with
  | caller => exact .plain rfl h
  | file _ => exact .plain rfl h
  | capture name =>
    rw [through, capturing_eq] at h
    obtain ⟨⟨⟨answer, left⟩, text⟩, collected, rfl⟩ := ends_map.mp h
    obtain ⟨inside, w₁, ran, alike, rfl, rest⟩ := ends_underText collected
    exact .captured rfl ran alike rest

/-- What an invocation has come to. -/
inductive Ran (perform : Performer) (e : Engine) (call : Call) (frame : Frame) (w : World) :
    List (Step World) → Answer × Frame → World → Prop
  | refused {d : Descriptor} {path : List (Step World)} {left : Frame} {w' : World}
      (read : d = .read frame.control call.action frame.vars)
      (resolved : Outlet.Resolved d call.sink frame (w.count "actions.executed") path
        (none, left) w') :
      Ran perform e call frame w
        (.event ⟨[], .invoked d⟩ (w.count "actions.executed") :: path) (.ok false, left) w'
  | ran {d : Descriptor} {outlet : Outlet} {path inside : List (Step World)}
      {opened left : Frame} {answer : Answer} {w₁ w₂ : World}
      (read : d = .read frame.control call.action frame.vars)
      (resolved : Outlet.Resolved d call.sink frame (w.count "actions.executed") path
        (some outlet, opened) w₁)
      (went : Went (fun sink => carryOut perform e { call with sink } d) call.sink outlet opened
        w₁ inside (answer, left) w₂) :
      Ran perform e call frame w
        (.event ⟨[], .invoked d⟩ (w.count "actions.executed") ::
          (path ++ inside.map (Step.under (.action ⟨d, outlet⟩)))) (answer, left)
        (scheduled d answer left w₂)

theorem ran (h : (invoke perform e call frame w).Ends path r w') :
    Ran perform e call frame w path r w' := by
  obtain ⟨_, rest, _, w₁, rfl, invoked, later⟩ := ends_bind.mp h
  obtain ⟨rfl, rfl⟩ := ends_tell.mp invoked
  obtain ⟨path, rest, ⟨outlet?, opened⟩, _, rfl, resolved, later⟩ := ends_bind.mp later
  have resolved := Outlet.resolved resolved
  cases outlet? with
  | none =>
    obtain ⟨rfl, rfl, rfl⟩ := ends_done.mp later
    rw [List.append_nil]
    exact .refused rfl resolved
  | some outlet =>
    obtain ⟨_, last, ⟨answer, left⟩, _, rfl, inside, ended⟩ := ends_bind.mp later
    obtain ⟨inside, rfl, through⟩ := ends_under.mp inside
    have whole := Ran.ran rfl resolved (went through)
    match answer with
    | .ok true | .ok false | .error _ =>
      obtain ⟨rfl, rfl, rfl⟩ := ends_done.mp ended
      rw [List.append_nil]
      exact whole

end Runs

end Action

end Runbook
