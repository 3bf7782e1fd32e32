import Runbook.Proofs.Inversion
/-! What invocations leave of the variables. A variable that has changed was assigned by an action
in between; the variables of loops, and all that is not assigned, come back. -/
namespace Runbook

open Course

def Descriptor.Binds (d : Descriptor) (x : String) : Prop :=
  ∃ plan, Plan.resolve d = .ok plan ∧ plan.iterations.binds = true ∧
    (x = d.loopName ∨ x = iterationName d.loopName)

/-- What happens inside does not reach a variable: a command has variables of its own, and a loop
restores what it binds. -/
def Layer.Shields (x : String) : Layer → Prop
  | .action l => l.descriptor.Binds x
  | .round _ => False
  | .command _ => True

/-- One of the actions that are executed assigns a variable, and no loop or command is around
it that keeps this in. -/
def Assigned (x : String) (es : List Event) : Prop :=
  ∃ e ∈ es, ∃ d, e.what = .invoked d ∧ d.assignName? = some x ∧
    ∀ layer ∈ e.layers, ¬ layer.Shields x

/-- An action that is executed, but not by a command, is read from a control file. -/
def Event.ReadFrom (control : ControlFile) (e : Event) : Prop :=
  ∀ d, e.what = .invoked d → (∀ c, .command c ∉ e.layers) →
    ∃ action vars, d = .read control action vars

theorem Assigned.left {x : String} {es : List Event} (h : Assigned x es) (more : List Event) :
    Assigned x (es ++ more) := by
  obtain ⟨e, member, rest⟩ := h
  exact ⟨e, List.mem_append_left more member, rest⟩

theorem Assigned.right {x : String} {es : List Event} (h : Assigned x es) (before : List Event) :
    Assigned x (before ++ es) := by
  obtain ⟨e, member, rest⟩ := h
  exact ⟨e, List.mem_append_right before member, rest⟩

theorem Assigned.under {x : String} {es : List Event} (h : Assigned x es) {layer : Layer}
    (open_ : ¬ layer.Shields x) : Assigned x (es.map (Event.under layer)) := by
  obtain ⟨e, member, d, what, name, outside⟩ := h
  refine ⟨e.under layer, List.mem_map_of_mem member, d, what, name, ?_⟩
  rintro other (_ | ⟨_, member⟩)
  · exact open_
  · exact outside other member

theorem Event.ReadFrom.under {control : ControlFile} {e : Event} (h : e.ReadFrom control)
    (layer : Layer) : (e.under layer).ReadFrom control := fun d what outside =>
  h d what fun c member => outside c (List.mem_cons_of_mem layer member)

theorem Event.readFrom_under_command (control : ControlFile) (e : Event) (c : Command) :
    (e.under (.command c)).ReadFrom control := fun _ _ outside =>
  absurd List.mem_cons_self (outside c)

theorem Event.readFrom_invoked {control : ControlFile} {action : String} {vars : Variables}
    {d : Descriptor} (read : d = .read control action vars) :
    ReadFrom control ⟨[], .invoked d⟩ := by
  rintro _ ⟨rfl⟩ _
  exact ⟨action, vars, read⟩

theorem Table.mem_keys_of_get?_eq_some {α : Type} {t : Table α} {name : String} {value : α}
    (h : t.get? name = some value) : name ∈ t.keys := by
  have found : ∀ l : List (String × α), Table.find name l = some value → name ∈ l.map Prod.fst := by
    intro l
    induction l with
    | nil => simp [Table.find]
    | cons e rest ih =>
      obtain ⟨key, old⟩ := e
      by_cases same : key = name
      · simp [same]
      · rw [Table.find, if_neg same]
        exact fun later => List.mem_cons_of_mem key (ih later)
  exact found t.entries h

/-- What a part of a run leaves of the variables, but for those that are bound around it. -/
structure Keeps (bound : String → Prop) (before : Frame) (es : List Event) (after : Frame) :
    Prop where
  control : after.control = before.control
  changed : ∀ x, ¬ bound x → after.vars.get? x ≠ before.vars.get? x → Assigned x es
  defined : ∀ x, ¬ bound x → (before.vars.get? x).isSome → (after.vars.get? x).isSome
  read : ∀ e ∈ es, e.ReadFrom before.control

abbrev unbound : String → Prop := fun _ => False

namespace Keeps

variable {bound : String → Prop} {f g h : Frame} {es more : List Event}

/-- Nothing changes where the variables and the control file do not. -/
theorem same (control : g.control = f.control) (vars : g.vars = f.vars)
    (read : ∀ e ∈ es, e.ReadFrom f.control) : Keeps bound f es g where
  control := control
  changed x _ differs := absurd (by rw [vars]) differs
  defined x _ := by rw [vars]; exact id
  read := read

theorem trans (first : Keeps bound f es g) (second : Keeps bound g more h) :
    Keeps bound f (es ++ more) h where
  control := second.control.trans first.control
  changed x free differs := by
    by_cases later : h.vars.get? x = g.vars.get? x
    · exact (first.changed x free (later ▸ differs)).left more
    · exact (second.changed x free later).right es
  defined x free := second.defined x free ∘ first.defined x free
  read e member := by
    rcases List.mem_append.mp member with member | member
    · exact first.read e member
    · exact first.control ▸ second.read e member

theorem weaken (h : Keeps unbound f es g) : Keeps bound f es g where
  control := h.control
  changed x _ := h.changed x id
  defined x _ := h.defined x id
  read := h.read

/-- As a part of a round. -/
theorem round (h : Keeps unbound f es g) (index : Nat) :
    Keeps unbound f (es.map (Event.under (.round index))) g where
  control := h.control
  changed x free differs := (h.changed x free differs).under id
  defined := h.defined
  read := by
    simp only [List.forall_mem_map]
    exact fun e member => (h.read e member).under _

/-- What happens without an invocation is read from anywhere. -/
theorem readFrom_of_ne {control : ControlFile} {e : Event} (h : ∀ d, e.what ≠ .invoked d) :
    e.ReadFrom control := fun d what => absurd what (h d)

theorem readFrom_of_said {control : ControlFile} {sink : Sink} {w w' : World}
    {path : List (Step World)} (said : Said sink w path w') :
    ∀ e ∈ events path, e.ReadFrom control := by
  intro e member
  obtain ⟨text, rfl⟩ := said.event member
  exact readFrom_of_ne (by simp)

theorem said {sink : Sink} {w w' : World} {path : List (Step World)}
    (said : Said sink w path w') : Keeps bound f (events path) f :=
  .same rfl rfl (readFrom_of_said said)

/-- One event that is no invocation. -/
theorem event {e : Event} (other : ∀ d, e.what ≠ .invoked d) : Keeps bound f [e] f :=
  .same rfl rfl (by simpa using readFrom_of_ne other)

/-- The variable of a capture has been assigned. -/
theorem captureInto {name : String} (h : Keeps unbound f es g) (assigned : Assigned name es)
    (text : String) (answer : Answer) :
    Keeps unbound f es (Action.captureInto name text answer g) := by
  match answer with
  | .ok false | .error _ => exact h
  | .ok true =>
    refine ⟨h.control, fun x free differs => ?_, fun x free defined => ?_, h.read⟩
    · by_cases same : x = name
      · exact same ▸ assigned
      · exact h.changed x free (by
          simpa [Action.captureInto, Frame.setVar, same] using differs)
    · by_cases same : x = name
      · simp [Action.captureInto, Frame.setVar, same]
      · simpa [Action.captureInto, Frame.setVar, same] using h.defined x free defined

end Keeps

def LoopVariable.Covers (loop? : Option LoopVariable) (x : String) : Prop :=
  ∃ v, loop? = some v ∧ (x = v.name ∨ x = iterationName v.name)

section Loop

variable {loop? : Option LoopVariable} {frame : Frame}

theorem keeps_bind (loop? : Option LoopVariable) (it : Iterations) (index : Nat)
    (frame : Frame) :
    Keeps (LoopVariable.Covers loop?) frame [] (Iteration.bind loop? it index frame) := by
  cases loop? with
  | none => exact .same rfl rfl (by simp)
  | some v =>
    have other : ∀ x, ¬ LoopVariable.Covers (some v) x →
        (v.bind frame.vars (it.value index) index).get? x = frame.vars.get? x := by
      intro x free
      have apart : x ≠ v.name ∧ x ≠ iterationName v.name := by
        simpa [LoopVariable.Covers] using free
      rw [LoopVariable.bind, Table.get?_set_other _ _ apart.2, Table.get?_set_other _ _ apart.1]
    exact ⟨rfl, fun x free differs => absurd (other x free) differs,
      fun x free => by rw [Iteration.bind, other x free]; exact id, by simp⟩

theorem get?_putBack (vars : Variables) (name x : String) (value : Option String) :
    (LoopVariable.putBack vars name value).get? x = if x = name then value else vars.get? x := by
  by_cases same : x = name
  · subst same
    cases value <;> simp [LoopVariable.putBack]
  · cases value <;> simp [LoopVariable.putBack, same]

/-- Restoring gives the bound variables their old values, and leaves all others alone. -/
theorem get?_restore {name : String} {plan : Plan} {before : Variables} (left : Frame)
    (x : String) :
    ((Iteration.restore (Iteration.saved? name plan before) left).vars.get? x =
      if plan.iterations.binds = true ∧ (x = name ∨ x = iterationName name) then before.get? x
      else left.vars.get? x) := by
  by_cases binds : plan.iterations.binds = true
  · simp only [Iteration.restore, Iteration.saved?, binds, if_true, LoopVariable.save,
      LoopVariable.restore, get?_putBack, true_and]
    by_cases companion : x = iterationName name
    · rw [if_pos companion, if_pos (.inr companion), companion]
    by_cases own : x = name
    · rw [if_neg companion, if_pos own, if_pos (.inl own), own]
    · rw [if_neg companion, if_neg own, if_neg (by simp [companion, own])]
  · simp [Iteration.restore, Iteration.saved?, binds]

theorem covers_saved? {name : String} {plan : Plan} {before : Variables} {x : String} :
    LoopVariable.Covers (Iteration.saved? name plan before) x ↔
      plan.iterations.binds = true ∧ (x = name ∨ x = iterationName name) := by
  by_cases binds : plan.iterations.binds = true <;>
    simp [LoopVariable.Covers, Iteration.saved?, LoopVariable.save, binds]

end Loop

def Runner.Keeps (run : Runner) : Prop :=
  ∀ call frame w path r w', (run call frame w).Ends path r w' →
    Runbook.Keeps unbound frame (events path) r.2

section Runs

variable {perform : Performer} {e : Engine} {call : Call} {frame : Frame} {w w' : World}
  {path : List (Step World)} {r : Answer × Frame}

theorem keeps_blocked {run : Runner} (keeps : Runner.Keeps run) {names : List String}
    (h : Action.Blocked run call names frame w path r w') :
    Keeps unbound frame (events path) r.2 := by
  induction h with
  | ended => exact .same rfl rfl (by simp [events])
  | next ran _ ih =>
    rw [events_append]
    exact (keeps _ _ _ _ _ _ ran).trans ih
  | stopped ran _ => exact keeps _ _ _ _ _ _ ran

/-- Commands do not have the variables at hand. -/
theorem keeps_commanded {c : Command} {args : List String} {sink : Sink} {answer : Answer}
    (h : Action.Commanded perform e c args sink w path answer w') :
    Keeps unbound frame (events path) frame := by
  refine .same rfl rfl ?_
  have own : ∀ inside : List (Step World),
      ∀ e ∈ events (inside.map (Step.under (.command c))), e.ReadFrom frame.control := by
    intro inside
    simp only [events_under, List.forall_mem_map]
    exact fun e _ => Event.readFrom_under_command _ e c
  have started : Event.ReadFrom frame.control ⟨[], .started c args⟩ :=
    Keeps.readFrom_of_ne (by simp)
  cases h with
  | @answered inside =>
    simp only [events_event, List.forall_mem_cons]
    exact ⟨started, own inside⟩
  | @raised inside f =>
    simp only [events_event, events_append, List.forall_mem_cons, List.forall_mem_append]
    exact ⟨started, own inside, by simpa [events] using Keeps.readFrom_of_ne (by simp)⟩

theorem keeps_dispatched (keeps : Runner.Keeps e.run)
    (h : Action.Dispatched perform e call frame w path r w') :
    Keeps unbound frame (events path) r.2 := by
  cases h with
  | block ran => exact keeps_blocked keeps ran
  | command ran => exact keeps_commanded ran
  | other ran => exact keeps _ _ _ _ _ _ ran
  | missing said => exact .said said

/-- What a body keeps, an iteration keeps but for the variables of the loop. -/
theorem keeps_rounded {plan : Plan} {loop? : Option LoopVariable} {body : Body} {index : Nat}
    {reached : Round Answer Frame}
    (keeps : ∀ frame w path r w', (body frame w).Ends path r w' →
      Keeps unbound frame (events path) r.2)
    (h : Iteration.Rounded call plan loop? body index frame w path reached w') :
    Keeps (LoopVariable.Covers loop?) frame (events path) reached.value := by
  have turned : ∀ f, Keeps (LoopVariable.Covers loop?) f [⟨[], .turned index⟩] f :=
    fun f => .event (by simp)
  cases h with
  | interrupted _ said => exact (turned frame).trans (.said said)
  | @ran _ _ last _ _ _ _ left _ _ said ran concluded =>
    have inside := (keeps _ _ _ _ _ ran).round index
    have ended : Keeps (LoopVariable.Covers loop?) left (events last) reached.value := by
      rw [concluded.value]
      exact .said concluded.said
    simpa [events_under] using (turned frame).trans ((Keeps.said said).trans
      ((keeps_bind loop? plan.iterations index frame).trans (inside.weaken.trans ended)))

theorem keeps_looped {plan : Plan} {loop? : Option LoopVariable} {body : Body} {index : Nat}
    (keeps : ∀ frame w path r w', (body frame w).Ends path r w' →
      Keeps unbound frame (events path) r.2)
    (h : Looped plan.iterations.has (Iteration.round call plan loop? body) (.ok true) index frame
      w path r w') :
    Keeps (LoopVariable.Covers loop?) frame (events path) r.2 := by
  induction h with
  | ended _ => exact .same rfl rfl (by simp [events])
  | next _ went _ ih =>
    rw [events_append]
    exact (keeps_rounded keeps (Iteration.rounded went)).trans ih
  | stopped _ went => exact keeps_rounded keeps (Iteration.rounded went)

/-- In the end of its loop an action keeps what the loop has bound as well. -/
theorem keeps_carried (keeps : Runner.Keeps e.run) {d : Descriptor} {outlet : Outlet}
    (h : Action.Carried perform e call d frame w path r w') :
    Keeps unbound frame ((events path).map (Event.under (.action ⟨d, outlet⟩))) r.2 := by
  cases h with
  | unplanned _ said =>
    refine .same rfl rfl ?_
    simp only [List.forall_mem_map]
    exact fun e member => (Keeps.readFrom_of_said said e member).under _
  | @ran plan before pause inside w₁ w₂ _ answer left planned warned waited went =>
    have looped := keeps_looped
      (fun _ _ _ _ _ ran => keeps_dispatched keeps (Action.dispatched ran)) went
    have paused : events pause = [] := by
      rcases waited with ⟨rfl, _⟩ | ⟨_, rfl⟩ <;> rfl
    have whole : Keeps (LoopVariable.Covers (Iteration.saved? d.loopName plan frame.vars)) frame
        (events (before ++ (pause ++ (inside ++ [.event ⟨[], .finished answer⟩ w'])))) left := by
      simpa [paused] using (Keeps.said warned).trans (looped.trans (Keeps.event (by simp)))
    -- The loop may have changed its own variables; restoring takes these back, and any other one
    -- that differs has been assigned inside.
    refine ⟨?_, fun x _ differs => ?_, fun x _ => ?_, ?_⟩
    · rw [← whole.control]
      unfold Iteration.restore
      split <;> rfl
    · rw [get?_restore] at differs
      split at differs
      · exact absurd rfl differs
      · rename_i free
        refine (whole.changed x ((not_congr covers_saved?).mpr free) differs).under ?_
        rintro ⟨plan', planned', binds⟩
        obtain rfl : plan = plan' := by simpa [planned] using planned'
        exact free binds
    · rw [get?_restore]
      split
      · exact id
      · exact whole.defined x ((not_congr covers_saved?).mpr ‹_›)
    · simp only [List.forall_mem_map]
      exact fun e member => (whole.read e member).under _

/-- A file that is opened, or cannot be, leaves the variables alone. -/
theorem keeps_resolved {d : Descriptor} {caller : Sink} {o : Option Outlet × Frame}
    (h : Outlet.Resolved d caller frame w path o w') : Keeps unbound frame (events path) o.2 := by
  cases h with
  | caller | capture => exact .same rfl rfl (by simp [events])
  | file _ warned opened =>
    obtain ⟨_, _, rfl, rfl⟩ := Outlet.openFile_eq_ok opened
    exact .same rfl rfl (Keeps.readFrom_of_said warned)
  | refused _ warned said =>
    rw [events_append]
    exact (Keeps.said warned).trans (.said said)

theorem keeps_ran (keeps : Runner.Keeps e.run) (h : Action.Ran perform e call frame w path r w') :
    Keeps unbound frame (events path) r.2 := by
  cases h with
  | @refused d _ _ _ read resolved =>
    have invoked : Keeps unbound frame [⟨[], .invoked d⟩] frame :=
      .same rfl rfl (by simpa using Event.readFrom_invoked read)
    exact invoked.trans (keeps_resolved resolved)
  | @ran d outlet path inside opened left answer _ _ read resolved went =>
    have invoked : Keeps unbound frame [⟨[], .invoked d⟩] frame :=
      .same rfl rfl (by simpa using Event.readFrom_invoked read)
    rw [events_event, events_append, events_under]
    have before := invoked.trans (keeps_resolved resolved)
    cases went with
    | plain _ ran => exact before.trans (keeps_carried keeps (Action.carried ran))
    | @captured name _ _ _ _ _ _ capture ran alike _ =>
      subst capture
      have named : d.assignName? = some name := by
        cases resolved
        assumption
      -- The variable of the capture may be set only now, but the invocation has named it already.
      have assigned : Assigned name [⟨[], .invoked d⟩] :=
        ⟨_, List.mem_singleton_self _, d, rfl, named, by simp⟩
      rw [alike.events]
      have carried := @keeps_carried _ _ _ _ _ _ _ _ keeps d (.capture name) (Action.carried ran)
      exact (before.trans carried).captureInto ((assigned.left _).left _) _ _

theorem keeps_runner (perform : Performer) (steps : Nat) :
    Runner.Keeps (Action.runner perform steps) := by
  induction steps with
  | zero =>
    intro call frame w path r w' h
    simp [Action.runner] at h
  | succ steps ih =>
    intro call frame w path r w' h
    exact keeps_ran ih (Action.ran h)

end Runs

/-- What a loop binds is assigned in an invocation only after the loop, by the action itself. -/
theorem not_assigned_of_binds {perform : Performer} {e : Engine} {call : Call} {frame : Frame}
    {w w' : World} {path : List (Step World)} {r : Answer × Frame}
    (h : Action.Ran perform e call frame w path r w') {d : Descriptor}
    (read : d = .read frame.control call.action frame.vars) {x : String} (binds : d.Binds x)
    (other : d.assignName? ≠ some x) : ¬ Assigned x (events path) := by
  rintro ⟨event, member, _, what, name, outside⟩
  cases h with
  | refused read' resolved =>
    rcases List.mem_cons.mp member with rfl | member
    · cases what
      exact other (read ▸ read' ▸ name)
    · obtain ⟨_, rfl⟩ := resolved.event member
      cases what
  | ran read' resolved _ =>
    simp only [events_event, events_append, events_under, List.mem_cons, List.mem_append,
      List.mem_map] at member
    rcases member with rfl | member | ⟨inner, _, rfl⟩
    · cases what
      exact other (read ▸ read' ▸ name)
    · obtain ⟨_, rfl⟩ := resolved.event member
      cases what
    · refine outside _ List.mem_cons_self ?_
      rw [Layer.Shields, read', ← read]
      exact binds

/-- An action that assigns a variable names it in its entry for that. -/
theorem Assigned.read {control : ControlFile} {x : String} {es : List Event} (h : Assigned x es)
    (read : ∀ e ∈ es, e.ReadFrom control) :
    ∃ e ∈ es, ∃ action vars, e.what = .invoked (.read control action vars) ∧
      (Descriptor.read control action vars).assignName? = some x ∧
      ∀ layer ∈ e.layers, ¬ layer.Shields x := by
  obtain ⟨e, member, d, what, name, outside⟩ := h
  obtain ⟨action, vars, rfl⟩ := read e member d what fun c inside => outside _ inside trivial
  exact ⟨e, member, action, vars, what, name, outside⟩

/-- Without any entry for an assignment, no action assigns anything. -/
theorem not_assigned_of_keys {control : ControlFile} {es : List Event}
    (none : ∀ name, name ++ ".assign" ∉ control.keys) (read : ∀ e ∈ es, e.ReadFrom control)
    (x : String) : ¬ Assigned x es := by
  intro assigned
  obtain ⟨_, _, action, vars, _, name, _⟩ := assigned.read read
  have absent : control.get? (Modifier.assign.entryName action) = Option.none := by
    cases found : control.get? (Modifier.assign.entryName action) with
    | none => rfl
    | some raw =>
      have member := Table.mem_keys_of_get?_eq_some found
      rw [Modifier.entryName, String.append_assoc] at member
      exact absurd member (none action)
  simp [Descriptor.assignName?, Descriptor.read, ControlFile.modifier?, absent] at name

/-- Every variable that an invocation leaves with another value, or defined where it was not, has
been assigned by one of the actions executed in it, and none of the loops around that binds it.
What was defined stays defined. So the variables of the loop of an action come back unless the
action itself assigns them, and without any entry for an assignment all variables come back. -/
theorem changed_only_by_assign (perform : Performer) (bound : Nat) (call : Call) (frame : Frame)
    (w : World) :
    (∀ path r w', (Action.runner perform bound call frame w).Ends path r w' →
      ∀ x, r.2.vars.get? x ≠ frame.vars.get? x → ∃ e ∈ events path, ∃ action vars,
        e.what = .invoked (.read frame.control action vars) ∧
        (Descriptor.read frame.control action vars).assignName? = some x ∧
        ∀ layer ∈ e.layers, ¬ layer.Shields x) ∧
    (∀ path r w', (Action.runner perform bound call frame w).Ends path r w' →
      ∀ x, (frame.vars.get? x).isSome → (r.2.vars.get? x).isSome) ∧
    (∀ path r w', (Action.runner perform bound call frame w).Ends path r w' →
      ∀ d, d = Descriptor.read frame.control call.action frame.vars → ∀ x, d.Binds x →
        d.assignName? ≠ some x → r.2.vars.get? x = frame.vars.get? x) ∧
    ((∀ name, name ++ ".assign" ∉ frame.control.keys) →
      ∀ path r w', (Action.runner perform bound call frame w).Ends path r w' →
        ∀ x, r.2.vars.get? x = frame.vars.get? x) := by
  have keeps := fun path r w' => keeps_runner perform bound call frame w path r w'
  refine ⟨fun path r w' h x differs =>
      ((keeps path r w' h).changed x id differs).read (keeps path r w' h).read,
    fun path r w' h x => (keeps path r w' h).defined x id, fun path r w' h d read x binds other => ?_,
    fun none path r w' h x => ?_⟩
  · cases bound with
    | zero => simp [Action.runner] at h
    | succ bound =>
      have kept := not_assigned_of_binds (Action.ran h) read binds other
      exact Decidable.byContradiction fun differs =>
        kept ((keeps path r w' h).changed x id differs)
  · have kept := not_assigned_of_keys none (keeps path r w' h).read x
    exact Decidable.byContradiction fun differs =>
      kept ((keeps path r w' h).changed x id differs)

end Runbook
