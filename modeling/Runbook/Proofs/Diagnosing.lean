import Runbook.Command.Perform
import Runbook.Proofs.Inversion
/-! What runs say when they fail. An action that has not succeeded has said why, or one of its parts
has; but what is said within a capture does not last. -/
namespace Runbook

open Course

/-- A line that says why an action or a command has not succeeded. -/
inductive Diagnostic : String → Prop
  | unplanned (action : String) (fault : PlanFault) : Diagnostic (fault.message action)
  | notFound (action : String) : Diagnostic (Action.notFound action)
  | interrupted (action : String) : Diagnostic (Iteration.interrupted action)
  | failed (action : String) (f : Failure) : Diagnostic (Iteration.failed action f)
  | cannotOpen (output action : String) (fault : PathFault) :
      Diagnostic (Outlet.cannotOpen output action fault)
  | wrongCount {c : Command} {count : Nat} {line : String} (h : line ∈ c.wrongCount count) :
      Diagnostic line
  | unknownCommand (name : String) : Diagnostic ("Unknown command: " ++ name)
  | cannotRead (file : String) (fault : PathFault) : Diagnostic (Request.cannotRead file fault)

/-- A diagnostic that is written where the innermost action around it writes. -/
def Event.Diagnoses (site : Site) (e : Event) : Prop :=
  ∃ line, Diagnostic line ∧ e.what = .wrote (site.within e.layers).sink (line ++ "\n")

/-- In a path it is written why it has failed. -/
def Diagnosed (site : Site) (path : List (Step World)) : Prop :=
  ∃ e ∈ events path, e.Diagnoses site

section Paths

variable {site : Site} {p q : List (Step World)}

theorem Diagnosed.left (h : Diagnosed site p) (q : List (Step World)) : Diagnosed site (p ++ q) := by
  obtain ⟨e, member, why⟩ := h
  exact ⟨e, by simp [member], why⟩

theorem Diagnosed.right (h : Diagnosed site q) (p : List (Step World)) : Diagnosed site (p ++ q) := by
  obtain ⟨e, member, why⟩ := h
  exact ⟨e, by simp [member], why⟩

theorem Diagnosed.cons (h : Diagnosed site p) (step : Step World) : Diagnosed site (step :: p) :=
  h.right [step]

theorem Diagnosed.under {layer : Layer} (h : Diagnosed (site.enter layer) p) :
    Diagnosed site (p.map (Step.under layer)) := by
  obtain ⟨e, member, line, why, what⟩ := h
  rw [Diagnosed, events_under]
  exact ⟨e.under layer, List.mem_map_of_mem member, line, why, what⟩

theorem diagnosed_line {sink : Sink} {line : String} (same : site.sink = sink)
    (why : Diagnostic line) (s : World) :
    Diagnosed site [.event ⟨[], .wrote sink (line ++ "\n")⟩ s] :=
  ⟨_, List.mem_singleton_self _, line, why, same ▸ rfl⟩

theorem diagnosed_sayLine {sink : Sink} {w w' : World} {line : String} {u : Unit}
    (h : (w.sayLine sink line).Ends p u w') (same : site.sink = sink) (why : Diagnostic line) :
    Diagnosed site p := by
  obtain ⟨rfl, rfl⟩ := ends_sayLine.mp h
  exact diagnosed_line same why _

theorem diagnosed_sayLines {sink : Sink} {w w' : World} {lines : List String} {u : Unit}
    (h : (w.sayLines sink lines).Ends p u w') (same : site.sink = sink) (some_ : lines ≠ [])
    (why : ∀ line ∈ lines, Diagnostic line) : Diagnosed site p := by
  cases lines with
  | nil => exact absurd rfl some_
  | cons line rest =>
    obtain ⟨_, _, _, _, rfl, said, _⟩ := ends_bind.mp h
    exact (diagnosed_sayLine said same (why line List.mem_cons_self)).left _

end Paths

def Runner.Diagnoses (run : Runner) : Prop :=
  ∀ site call frame w path left w', (run call frame w).Ends path (.ok false, left) w' →
    site.sink = call.sink → Diagnosed site path

def Performer.Diagnoses (perform : Performer) : Prop :=
  ∀ site e c args sink w path w', Runner.Diagnoses e.run →
    (perform e c args sink w).Ends path (.ok false) w' → site.sink = sink → Diagnosed site path

section Runs

variable {perform : Performer} {e : Engine} {site : Site} {call : Call} {frame left : Frame}
  {w w' : World} {path : List (Step World)}

theorem diagnosed_resolve {d : Descriptor} {caller : Sink}
    (h : (Outlet.resolve d caller frame w).Ends path (none, left) w') (same : site.sink = caller) :
    Diagnosed site path := by
  unfold Outlet.resolve at h
  split at h
  · simp at h
  · simp at h
  · obtain ⟨_, _, _, _, rfl, _, later⟩ := ends_bind.mp h
    split at later
    · simp at later
    · obtain ⟨_, said, _⟩ := ends_map.mp later
      exact (diagnosed_sayLine said same (.cannotOpen ..)).right _

theorem diagnosed_blocked {run : Runner} (runs : Runner.Diagnoses run) {names : List String}
    {r : Answer × Frame} (h : Action.Blocked run call names frame w path r w')
    (failed : r.1 = .ok false) (same : site.sink = call.sink) : Diagnosed site path := by
  induction h with
  | ended => cases failed
  | next _ _ ih => exact (ih failed).right _
  | @stopped name _ _ left _ _ _ answer ran _ =>
    obtain rfl : answer = .ok false := failed
    exact runs site { call with action := name } _ _ _ left _ ran same

theorem diagnosed_dispatch (performs : Performer.Diagnoses perform) (runs : Runner.Diagnoses e.run)
    (h : (Action.dispatch perform e call frame w).Ends path (.ok false, left) w')
    (same : site.sink = call.sink) : Diagnosed site path := by
  simp only [Action.dispatch] at h
  split at h
  · exact diagnosed_blocked runs (Action.blocked h) rfl same
  split at h
  · rename_i c _
    obtain ⟨answer, ran, answered⟩ := ends_map.mp h
    obtain rfl : answer = .ok false := (Prod.mk.inj answered).1.symm
    cases Action.commanded ran with
    | @answered part _ _ ran =>
      have within : Diagnosed (site.enter (.command c)) part :=
        performs site _ _ _ _ _ _ _ runs ran same
      exact within.under.cons _
  split at h
  · exact runs site _ _ _ _ left _ h same
  · obtain ⟨_, said, _⟩ := ends_map.mp h
    exact diagnosed_sayLine said same (.notFound _)

/-- Where an iteration has stopped the loop without success, it has told why, or its body has. -/
theorem diagnosed_round {plan : Plan} {loop? : Option LoopVariable} {body : Body} {index : Nat}
    (bodies : ∀ frame w path left w', (body frame w).Ends path (.ok false, left) w' →
      Diagnosed site path)
    (h : (Iteration.round call plan loop? body index frame w).Ends path (.stop (.ok false) left) w')
    (same : site.sink = call.sink) : Diagnosed site path := by
  obtain ⟨_, rest, _, w, rfl, _, later⟩ := ends_bind.mp h
  refine Diagnosed.right ?_ _
  by_cases past : w.shutdown = true
  · simp only [past, if_true] at later
    obtain ⟨_, said, _⟩ := ends_map.mp later
    exact diagnosed_sayLine said same (.interrupted _)
  · simp only [past] at later
    obtain ⟨_, _, _, _, rfl, _, later⟩ := ends_bind.mp later
    obtain ⟨_, last, ⟨answer, after⟩, w₂, rfl, inside, ended⟩ := ends_bind.mp later
    obtain ⟨part, rfl, ran⟩ := ends_under.mp inside
    refine Diagnosed.right ?_ _
    have concluded := Iteration.concluded ended
    cases concluded with
    | failed =>
      have within : Diagnosed (site.enter (.round index)) part := bodies _ _ _ _ _ ran
      exact within.under.left _
    | reported => exact (diagnosed_line same (.failed ..) _).right _

theorem diagnosed_looped {plan : Plan} {loop? : Option LoopVariable} {body : Body} {index : Nat}
    {r : Answer × Frame}
    (bodies : ∀ frame w path left w', (body frame w).Ends path (.ok false, left) w' →
      Diagnosed site path)
    (h : Looped plan.iterations.has (Iteration.round call plan loop? body) (.ok true) index frame
      w path r w') (failed : r.1 = .ok false) (same : site.sink = call.sink) :
    Diagnosed site path := by
  induction h with
  | ended _ => cases failed
  | next _ _ _ ih => exact (ih failed).right _
  | stopped _ went =>
    obtain rfl := failed
    exact diagnosed_round bodies went same

theorem diagnosed_carryOut (performs : Performer.Diagnoses perform) (runs : Runner.Diagnoses e.run)
    {d : Descriptor} (h : (Action.carryOut perform e call d frame w).Ends path (.ok false, left) w')
    (same : site.sink = call.sink) : Diagnosed site path := by
  simp only [Action.carryOut] at h
  split at h
  · obtain ⟨_, said, _⟩ := ends_map.mp h
    exact diagnosed_sayLine said same (.unplanned ..)
  · obtain ⟨_, rest, _, _, rfl, _, later⟩ := ends_bind.mp h
    obtain ⟨inside, last, ⟨answer, after⟩, _, rfl, went, ended⟩ := ends_bind.mp later
    obtain ⟨_, _, answered⟩ := ends_map.mp ended
    refine ((diagnosed_looped ?_ (looped went) (Prod.mk.inj answered).1.symm same).left _).right _
    exact fun _ _ _ _ _ ran => diagnosed_dispatch performs runs ran same

theorem diagnosed_invoke (performs : Performer.Diagnoses perform) (runs : Runner.Diagnoses e.run)
    (h : (Action.invoke perform e call frame w).Ends path (.ok false, left) w')
    (same : site.sink = call.sink) : Diagnosed site path := by
  obtain ⟨_, rest, _, _, rfl, _, later⟩ := ends_bind.mp h
  obtain ⟨first, rest, ⟨outlet?, opened⟩, _, rfl, resolved, later⟩ := ends_bind.mp later
  refine Diagnosed.right ?_ _
  cases outlet? with
  | none =>
    obtain ⟨rfl, _, rfl⟩ := ends_done.mp later
    exact (diagnosed_resolve resolved same).left _
  | some outlet =>
    obtain ⟨_, last, ⟨answer, after⟩, _, rfl, inside, ended⟩ := ends_bind.mp later
    obtain ⟨part, rfl, went⟩ := ends_under.mp inside
    have failed : answer = .ok false := by
      match answer, ended with
      | .ok true, ended | .ok false, ended | .error _, ended => simp_all
    subst failed
    have entered : (site.enter (.action ⟨.read frame.control call.action frame.vars, outlet⟩)).sink =
        outlet.sink call.sink := congrArg outlet.sink same
    suffices within :
        Diagnosed (site.enter (.action ⟨.read frame.control call.action frame.vars, outlet⟩)) part from
      (within.under.left last).right first
    have through := Action.went went
    generalize reached : ((.ok false, after) : Answer × Frame) = r at through
    cases through with
    | plain _ ran =>
      subst reached
      exact diagnosed_carryOut performs runs ran entered
    | captured capture ran alike _ =>
      obtain ⟨rfl, _⟩ := Prod.mk.inj reached
      subst capture
      have inside := diagnosed_carryOut performs runs ran entered
      rwa [Diagnosed, alike.events]

theorem diagnoses_runner (performs : Performer.Diagnoses perform) (steps : Nat) :
    Runner.Diagnoses (Action.runner perform steps) := by
  induction steps with
  | zero =>
    intro site call frame w path left w' h
    simp [Action.runner] at h
  | succ steps ih =>
    intro site call frame w path left w' h same
    exact diagnosed_invoke performs ih h same

end Runs

section Commands

variable {site : Site} {sink : Sink} {w w' : World} {path : List (Step World)}

theorem diagnosed_describe {name? : Option String} {lines : List String} {u : Unit}
    (h : Request.describe w.catalogue name? = (false, lines))
    (said : (w.sayLines sink lines).Ends path u w') (same : site.sink = sink) :
    Diagnosed site path := by
  unfold Request.describe at h
  cases name? with
  | none => simp at h
  | some name =>
    cases found : Command.find? w.catalogue name with
    | some c => simp [found] at h
    | none =>
      obtain rfl : ["Unknown command: " ++ name] = lines := by simpa [found] using h
      exact diagnosed_sayLines said same (by simp) (by simpa using .unknownCommand name)

theorem not_ends_map {α : Type} {c : Course World α} {f : α → Answer} {answer : Answer}
    (other : ∀ a, f a ≠ answer) : ¬ (c.map f).Ends path answer w' := by
  intro h
  obtain ⟨a, _, answered⟩ := ends_map.mp h
  exact other a answered.symm

/-- Most commands either succeed or fail with a failure of some kind. -/
theorem not_false_sleepFor {milliseconds : String} :
    ¬ (Request.sleepFor milliseconds w).Ends path (.ok false) w' := by
  unfold Request.sleepFor
  split
  · simp
  · exact not_ends_map fun undisturbed => by cases undisturbed <;> simp

theorem not_false_showTime {format : String} :
    ¬ (Request.showTime format sink w).Ends path (.ok false) w' := by
  unfold Request.showTime
  split
  · exact not_ends_map (by simp)
  · simp

theorem not_false_showFilter {filter? : Option String} :
    ¬ (Request.showFilter filter? sink w).Ends path (.ok false) w' := by
  unfold Request.showFilter
  split
  · exact not_ends_map (by simp)
  split
  · simp
  · exact not_ends_map (by simp)

theorem not_false_onBench {request : Bench.Request} :
    ¬ (Request.onBench request sink w).Ends path (.ok false) w' := by
  unfold Request.onBench
  split
  · exact not_ends_map (by simp)
  · simp

theorem diagnosed_runFile {e : Engine} (runs : Runner.Diagnoses e.run) {file : String}
    {rest : List String} (h : (Request.runFile e file rest sink w).Ends path (.ok false) w')
    (same : site.sink = sink) : Diagnosed site path := by
  unfold Request.runFile at h
  split at h
  · obtain ⟨_, said, _⟩ := ends_map.mp h
    exact diagnosed_sayLine said same (.cannotRead ..)
  · obtain ⟨_, ran, answered⟩ := ends_map.mp h
    obtain ⟨⟨answer, left⟩, inside, rfl⟩ := ends_map.mp ran
    obtain rfl : answer = .ok false := answered.symm
    exact runs site _ _ _ _ left _ inside same

/-- Every command that fails without a failure of some kind tells why. -/
theorem diagnoses_perform : Performer.Diagnoses Command.perform := by
  intro site e c args sink w path w' runs h same
  unfold Command.perform at h
  split at h
  · rename_i request _
    cases request with
    | help name? =>
      obtain ⟨_, said, found⟩ := ends_map.mp h
      exact diagnosed_describe (Prod.ext (Except.ok.inj found).symm rfl) said same
    | echo => exact absurd h (not_ends_map (by simp))
    | sleep => exact absurd h not_false_sleepFor
    | currentTime => exact absurd h not_false_showTime
    | controlFile => exact diagnosed_runFile runs h same
    | fail => simp [Request.perform] at h
    | quit =>
      obtain ⟨_, _, _, _, _, _, later⟩ := ends_bind.mp h
      exact absurd later (not_ends_map (by simp))
    | loggingLevel => exact absurd h not_false_showFilter
    | bench => exact absurd h not_false_onBench
  · obtain ⟨_, said, _⟩ := ends_map.mp h
    exact diagnosed_sayLines said same (by simp [Command.wrongCount]) fun line => .wrongCount

end Commands

/-- Within some layers, what is written goes where it went outside of them, to a file, or into a
capture. -/
theorem Site.sink_within (site : Site) (layers : List Layer) :
    (site.within layers).sink = site.sink ∨
    (∃ output, (site.within layers).sink = .file output) ∨
    ∃ level, .action level ∈ layers ∧ level.outlet.captures = true := by
  induction layers generalizing site with
  | nil => exact .inl rfl
  | cons layer rest ih =>
    rw [Site.within_cons]
    rcases ih (site.enter layer) with same | file | ⟨level, member, captures⟩
    · cases layer with
      | round | command => exact .inl same
      | action level =>
        obtain ⟨d, outlet⟩ := level
        cases outlet with
        | caller => exact .inl same
        | file output => exact .inr (.inl ⟨output, same⟩)
        | capture name => exact .inr (.inr ⟨_, List.mem_cons_self, rfl⟩)
    · exact .inr (.inl file)
    · exact .inr (.inr ⟨level, List.mem_cons_of_mem _ member, captures⟩)

/-- A run that has not succeeded has said why: a diagnostic has been written to the caller, to the
end of an output file, or to the text of a capture around the action that tells it. So where no
action captures what it writes, no failure is silent. -/
theorem failure_is_diagnosed (bound : Nat) (call : Call) (frame left : Frame) (w w' : World)
    (path : List (Step World))
    (h : (Action.runner Command.perform bound call frame w).Ends path (.ok false, left) w') :
    ∃ e ∈ events path, ∃ line sink, Diagnostic line ∧ e.what = .wrote sink (line ++ "\n") ∧
      (sink = call.sink ∨ (∃ output, sink = .file output) ∨
        ∃ level, .action level ∈ e.layers ∧ level.outlet.captures = true) := by
  obtain ⟨e, member, line, why, what⟩ :=
    diagnoses_runner diagnoses_perform bound ⟨call.action, call.sink, false⟩ call frame w path left w'
      h rfl
  exact ⟨e, member, line, _, why, what, Site.sink_within _ e.layers⟩

def emptyDesk : World := .fresh Command.withLog ⟨[], []⟩ ⟨0, 0⟩ (FileTree.bare ["work"])

def failing : ControlFile := .ofList [("a", "fail")]

theorem failure_is_diagnosed_failing : ∃ path left w',
    (Action.runner Command.perform 5 ⟨"a", .text, false⟩ (.fresh failing .empty) emptyDesk).Ends path
      (.ok false, left) w' ∧
    ∃ e ∈ events path, ∃ line sink, Diagnostic line ∧ e.what = .wrote sink (line ++ "\n") ∧
      (sink = .text ∨ (∃ output, sink = .file output) ∨
        ∃ level, .action level ∈ e.layers ∧ level.outlet.captures = true) := by
  have answer : (Action.runner Command.perform 5 ⟨"a", .text, false⟩ (.fresh failing .empty)
      emptyDesk).direct?.map (·.2.1.1.toOption) = some (some false) := by decide +kernel
  obtain ⟨⟨path, ⟨answer, left⟩, w'⟩, ran, failed⟩ := Option.map_eq_some_iff.mp answer
  obtain rfl : answer = .ok false := by
    match answer, failed with
    | .ok false, _ => rfl
  exact ⟨path, left, w', ends_of_direct? ran,
    failure_is_diagnosed 5 ⟨"a", .text, false⟩ (.fresh failing .empty) left emptyDesk w' path
      (ends_of_direct? ran)⟩

def muffled : ControlFile := .ofList [("a", "fail"), ("a.assign", "x")]

/-- The run of an action that fails without a word: what it has said was captured, and is gone. The
streams and the files are as they were. -/
theorem muffled_failure_is_silent : ∃ path r w',
    ((Action.engine Command.perform 5).runControl muffled "a" .empty .text emptyDesk).Ends path r w' ∧
      r.1.toOption = some false ∧ w'.text = "" ∧ w'.console = "" ∧ w'.files = emptyDesk.files := by
  have answer : ((Action.engine Command.perform 5).runControl muffled "a" .empty .text
      emptyDesk).direct?.map (fun r => (r.2.1.1.toOption, r.2.2.text, r.2.2.console)) =
        some (some false, "", "") := by decide +kernel
  have files : ((Action.engine Command.perform 5).runControl muffled "a" .empty .text
      emptyDesk).direct?.map (·.2.2.files) = some emptyDesk.files := by with_unfolding_all rfl
  obtain ⟨r, ran, same⟩ := Option.map_eq_some_iff.mp answer
  obtain ⟨failed, text, console⟩ : r.2.1.1.toOption = some false ∧ r.2.2.text = "" ∧
      r.2.2.console = "" := by simpa using same
  exact ⟨r.1, r.2.1, r.2.2, ends_of_direct? ran, failed, text, console, by simpa [ran] using files⟩

end Runbook
