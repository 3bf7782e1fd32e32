import Runbook.Command.Perform
import Runbook.Proofs.Execution
import Runbook.Proofs.Growth
/-! What runs leave in files. A file gets what is written by the actions whose output goes there, in
the order in which it is written, and nothing else; each path is opened once. -/
namespace Runbook

open Course

/-- What an event adds to a file: what is written by an action whose output goes there. -/
def Event.bytesTo (site : Site) (files : FileTree) (name : String) (e : Event) : Bytes :=
  match e.what, (site.within e.layers).sink with
  | .wrote _ text, .file path => if files.target? path = some name then Text.toBytes text else []
  | _, _ => []

/-- What a step adds to a file. While a run waits, others may write there. -/
def Course.Step.bytesTo (site : Site) (files : FileTree) (name : String) : Step World → Bytes
  | .event e _ => e.bytesTo site files name
  | .waited _ s now => (now.files.content name).drop (s.files.content name).length

def filed (site : Site) (files : FileTree) (name : String) (path : List (Step World)) : Bytes :=
  path.flatMap (Step.bytesTo site files name)

/-- While a run waits, others only write to files. -/
def FilesGrow (path : List (Step World)) : Prop :=
  ∀ reason s now, .waited reason s now ∈ path → s.files.Grows now.files

def Sink.Ready (t : FileTree) (sink : Sink) : Prop := ∀ path, sink = .file path → t.Opened path

def Frame.Ready (t : FileTree) (frame : Frame) : Prop := ∀ path ∈ frame.opened, t.Opened path

/-- Some action has its output in the file with a path; an action that a command runs is none of
this run. -/
def Outputs (path : String) : List Layer → Prop
  | [] => False
  | .action level :: inner => level.outlet = .file path ∨ Outputs path inner
  | .round _ :: inner => Outputs path inner
  | .command _ :: _ => False

section Steps

variable {p q : List (Step World)}

theorem FilesGrow.left (h : FilesGrow (p ++ q)) : FilesGrow p := fun reason s now member =>
  h reason s now (List.mem_append_left q member)

theorem FilesGrow.right (h : FilesGrow (p ++ q)) : FilesGrow q := fun reason s now member =>
  h reason s now (List.mem_append_right p member)

theorem FilesGrow.tail {step : Step World} (h : FilesGrow (step :: p)) : FilesGrow p :=
  fun reason s now member => h reason s now (List.mem_cons_of_mem step member)

theorem FilesGrow.of_under {layer : Layer} (h : FilesGrow (p.map (Step.under layer))) :
    FilesGrow p := fun reason s now member =>
  h reason s now (List.mem_map_of_mem (f := Step.under layer) member)

theorem FilesGrow.append (h : FilesGrow p) (h' : FilesGrow q) : FilesGrow (p ++ q) :=
  fun reason s now member => (List.mem_append.mp member).elim (h reason s now) (h' reason s now)

theorem FilesGrow.event (h : FilesGrow p) (e : Event) (s : World) :
    FilesGrow (.event e s :: p) := fun reason t now member =>
  (List.mem_cons.mp member).elim (fun same => by cases same) (h reason t now)

theorem FilesGrow.under (h : FilesGrow p) (layer : Layer) :
    FilesGrow (p.map (Step.under layer)) := by
  intro reason s now member
  obtain ⟨step, member, same⟩ := List.mem_map.mp member
  cases step with
  | event => cases same
  | waited =>
    cases same
    exact h _ _ _ member

theorem filesGrow_steps (told : List (Event × World)) : FilesGrow (steps told) := by
  intro reason s now member
  obtain ⟨_, _, same⟩ := List.mem_map.mp member
  cases same

theorem FilesGrow.of_alike (alike : Alike p q) (h : FilesGrow q) : FilesGrow p := by
  induction alike with
  | nil => exact h
  | event _ ih =>
    intro reason s now member
    rcases List.mem_cons.mp member with same | member
    · cases same
    · exact ih h.tail reason s now member
  | waited _ ih =>
    intro reason s now member
    rcases List.mem_cons.mp member with same | member
    · cases same
      have kept := h _ _ _ List.mem_cons_self
      exact kept
    · exact ih h.tail reason s now member

theorem Sink.Ready.mono {t u : FileTree} {sink : Sink} (h : sink.Ready t) (grows : t.Grows u) :
    sink.Ready u := fun path same => (h path same).mono grows

end Steps

/-- What a part of a run does to the files. Later on the paths still mean the same files. -/
structure Filed (site : Site) (t : FileTree) (path : List (Step World)) (u : FileTree) : Prop where
  grows : t.Grows u
  content : ∀ later, u.Grows later → ∀ name,
    u.content name = t.content name ++ filed site later name path

namespace Filed

variable {site : Site} {t u v : FileTree} {p q : List (Step World)} {w w' : World} {sink : Sink}

theorem nil (site : Site) (t : FileTree) : Filed site t [] t := ⟨.refl t, by simp [filed]⟩

theorem append (first : Filed site t p u) (second : Filed site u q v) :
    Filed site t (p ++ q) v where
  grows := first.grows.trans second.grows
  content later grows name := by
    rw [second.content later grows, first.content later (second.grows.trans grows)]
    simp [filed]

theorem quiet {e : Event} (quiet : ∀ sink text, e.what ≠ .wrote sink text) (s : World) :
    Filed site t [.event e s] t where
  grows := .refl t
  content later _ name := by
    have nothing : e.bytesTo site later name = [] := by
      unfold Event.bytesTo
      split
      · exact absurd ‹_› (quiet _ _)
      · rfl
    simp [filed, Step.bytesTo, nothing]

/-- What is written goes to the end of the file that is open. -/
theorem wrote (same : site.sink = sink) (ready : sink.Ready w.files) (text : String) (s : World) :
    Filed site w.files [.event ⟨[], .wrote sink text⟩ s] (w.write sink text).files := by
  subst same
  cases where_ : site.sink with
  | text | console =>
    refine ⟨.refl _, fun later _ name => ?_⟩
    simp [filed, Step.bytesTo, Event.bytesTo, where_, World.write]
  | file path =>
    have grows := FileTree.grows_append w.files path (Text.toBytes text)
    refine ⟨grows, fun later later' name => ?_⟩
    have target := (ready path where_).target? (grows.trans later')
    simp only [World.write, FileTree.content_append, filed, List.flatMap_singleton, Step.bytesTo,
      Event.bytesTo, Site.within_nil, where_, target]

theorem waited {reason : Wait} {now : World} (grow : FilesGrow (.waited reason w.settle now :: q)) :
    Filed site w.files [.waited reason w.settle now] now.files where
  grows := grow reason w.settle now List.mem_cons_self
  content later _ name := by
    obtain ⟨more, same⟩ := (grow reason w.settle now List.mem_cons_self).content name
    rw [← same]
    simp [filed, Step.bytesTo, ← same, World.settle]

theorem under {layer : Layer} (h : Filed (site.enter layer) t p u) :
    Filed site t (p.map (Step.under layer)) u where
  grows := h.grows
  content later grows name := by
    have step : ∀ step : Step World, (step.under layer).bytesTo site later name =
        step.bytesTo (site.enter layer) later name := fun step => by cases step <;> rfl
    rw [h.content later grows, filed, filed, List.flatMap_map]
    simp only [step]

/-- A capture around a part hides nothing of what it does to the files. -/
theorem alike (alike : Alike p q) (h : Filed site t p u) : Filed site t q u where
  grows := h.grows
  content later grows name := by
    rw [h.content later grows]
    clear h grows
    congr 1
    induction alike with
    | nil => rfl
    | event _ ih | waited _ ih => simpa [filed, Step.bytesTo] using ih

theorem said (h : Said sink w p w') (same : site.sink = sink) (ready : sink.Ready w.files) :
    Filed site w.files p w'.files := by
  cases h with
  | nothing => exact .nil ..
  | line text => exact .wrote same ready ..

end Filed

/-- What a part of a run does to the files and to the list of those that it has opened. -/
structure Leaves (site : Site) (before : Frame) (t : FileTree) (path : List (Step World))
    (after : Frame) (u : FileTree) : Prop where
  filed : Filed site t path u
  ready : after.Ready u
  distinct : before.opened.Nodup → after.opened.Nodup
  outputs : ∀ output, output ∈ after.opened ↔
    output ∈ before.opened ∨ ∃ e ∈ events path, Outputs output e.layers

namespace Leaves

variable {site : Site} {f g h : Frame} {t u v : FileTree} {p q : List (Step World)}

/-- A part that opens nothing itself, and in which no action has a file. -/
theorem of_filed (filed : Filed site t p u) (ready : f.Ready t) (same : g.opened = f.opened)
    (none : ∀ e ∈ events p, ∀ output, ¬ Outputs output e.layers) : Leaves site f t p g u where
  filed := filed
  ready path member := (ready path (same ▸ member)).mono filed.grows
  distinct := by rw [same]; exact id
  outputs output := by
    rw [same]
    exact ⟨.inl, fun either => either.elim id fun ⟨e, member, has⟩ =>
      absurd has (none e member output)⟩

theorem append (first : Leaves site f t p g u) (second : Leaves site g u q h v) :
    Leaves site f t (p ++ q) h v where
  filed := first.filed.append second.filed
  ready := second.ready
  distinct := second.distinct ∘ first.distinct
  outputs output := by
    rw [second.outputs, first.outputs]
    simp only [events_append, List.mem_append, or_and_right, exists_or, or_assoc]

/-- The variables do not matter. -/
theorem congr (leaves : Leaves site f t p g u) {f' g' : Frame} (before : f'.opened = f.opened)
    (after : g'.opened = g.opened) : Leaves site f' t p g' u where
  filed := leaves.filed
  ready path member := leaves.ready path (after ▸ member)
  distinct := by rw [before, after]; exact leaves.distinct
  outputs output := by rw [before, after]; exact leaves.outputs output

theorem round (leaves : Leaves site f t p g u) (index : Nat) :
    Leaves site f t (p.map (Step.under (.round index))) g u where
  filed := (show Filed (site.enter (.round index)) t p u from leaves.filed).under
  ready := leaves.ready
  distinct := leaves.distinct
  outputs output := by
    rw [leaves.outputs, events_under]
    refine or_congr_right ⟨fun ⟨e, member, has⟩ => ⟨_, List.mem_map_of_mem member, has⟩, ?_⟩
    rintro ⟨_, mapped, has⟩
    obtain ⟨e, member, rfl⟩ := List.mem_map.mp mapped
    exact ⟨e, member, has⟩

/-- As what an action does with its outlet, which may be a file that is open since then. -/
theorem action {d : Descriptor} {outlet : Outlet} {opened : Frame}
    (leaves : Leaves (site.enter (.action ⟨d, outlet⟩)) opened t p g u) (tells : events p ≠ [])
    (distinct : f.opened.Nodup → opened.opened.Nodup)
    (opens : ∀ output, output ∈ opened.opened ↔ output ∈ f.opened ∨ outlet = .file output) :
    Leaves site f t (p.map (Step.under (.action ⟨d, outlet⟩))) g u where
  filed := leaves.filed.under
  ready := leaves.ready
  distinct := leaves.distinct ∘ distinct
  outputs output := by
    rw [leaves.outputs, opens, events_under, or_assoc]
    refine or_congr_right ⟨?_, ?_⟩
    · rintro (own | ⟨e, member, has⟩)
      · obtain ⟨e, member⟩ := List.exists_mem_of_ne_nil _ tells
        exact ⟨_, List.mem_map_of_mem member, .inl own⟩
      · exact ⟨_, List.mem_map_of_mem member, .inr has⟩
    · rintro ⟨_, mapped, has⟩
      obtain ⟨e, member, rfl⟩ := List.mem_map.mp mapped
      exact has.imp id fun has => ⟨e, member, has⟩

theorem said {sink : Sink} {w w' : World} (said : Said sink w p w') (same : site.sink = sink)
    (sinkReady : sink.Ready w.files) (ready : f.Ready w.files) (left : g.opened = f.opened) :
    Leaves site f w.files p g w'.files := by
  refine .of_filed (.said said same sinkReady) ready left fun e member output => ?_
  obtain ⟨text, rfl⟩ := said.event member
  exact id

theorem quiet {what : Happening} (quiet : ∀ sink text, what ≠ .wrote sink text) (s : World)
    (ready : f.Ready t) (left : g.opened = f.opened) :
    Leaves site f t [.event ⟨[], what⟩ s] g t :=
  .of_filed (.quiet quiet s) ready left (by simp [Outputs])

end Leaves

def Runner.Files (run : Runner) : Prop :=
  ∀ site call frame w path r w', (run call frame w).Ends path r w' → FilesGrow path →
    site.sink = call.sink → call.sink.Ready w.files → frame.Ready w.files →
    Leaves site frame w.files path r.2 w'.files

def Performer.Files (perform : Performer) : Prop :=
  ∀ site e c args sink w path answer w', Runner.Files e.run →
    (perform e c args sink w).Ends path answer w' → FilesGrow path → site.sink = sink →
    sink.Ready w.files → Filed site w.files path w'.files

section Runs

variable {perform : Performer} {e : Engine} {site : Site} {call : Call} {frame : Frame}
  {w w' : World} {path : List (Step World)} {r : Answer × Frame}

theorem files_blocked {run : Runner} (runs : Runner.Files run) {names : List String}
    (h : Action.Blocked run call names frame w path r w') (grow : FilesGrow path)
    (same : site.sink = call.sink) (sinkReady : call.sink.Ready w.files)
    (ready : frame.Ready w.files) : Leaves site frame w.files path r.2 w'.files := by
  induction h with
  | ended => exact .of_filed (.nil ..) ready rfl (by simp)
  | next ran _ ih =>
    have first := runs site _ _ _ _ _ _ ran grow.left same sinkReady ready
    exact first.append (ih grow.right (sinkReady.mono first.filed.grows) first.ready)
  | stopped ran _ => exact runs site _ _ _ _ _ _ ran grow same sinkReady ready

theorem files_commanded (performs : Performer.Files perform) (runs : Runner.Files e.run)
    {c : Command} {args : List String} {sink : Sink} {answer : Answer}
    (h : Action.Commanded perform e c args sink w path answer w') (grow : FilesGrow path)
    (same : site.sink = sink) (sinkReady : sink.Ready w.files) (ready : frame.Ready w.files) :
    Leaves site frame w.files path frame w'.files := by
  have own : ∀ inside answer, (perform e c args sink w).Ends inside answer w' → FilesGrow inside →
      Leaves site frame w.files (inside.map (Step.under (.command c))) frame w'.files := by
    intro inside answer ran grow
    have filed : Filed (site.enter (.command c)) w.files inside w'.files :=
      performs site e c args sink w _ _ _ runs ran grow same sinkReady
    refine .of_filed filed.under ready rfl ?_
    simp only [events_under, List.forall_mem_map]
    exact fun e _ output => id
  have started : Leaves site frame w.files [.event ⟨[], .started c args⟩ w] frame w.files :=
    .quiet (by simp) w ready rfl
  cases h with
  | answered ran => exact started.append (own _ _ ran grow.tail.of_under)
  | raised ran =>
    have inside := own _ _ ran grow.tail.left.of_under
    exact started.append (inside.append (.quiet (by simp) _ inside.ready rfl))

theorem files_dispatched (performs : Performer.Files perform) (runs : Runner.Files e.run)
    (h : Action.Dispatched perform e call frame w path r w') (grow : FilesGrow path)
    (same : site.sink = call.sink) (sinkReady : call.sink.Ready w.files)
    (ready : frame.Ready w.files) : Leaves site frame w.files path r.2 w'.files := by
  cases h with
  | block ran => exact files_blocked runs ran grow same sinkReady ready
  | command ran => exact files_commanded performs runs ran grow same sinkReady ready
  | other ran => exact runs site _ _ _ _ _ _ ran grow same sinkReady ready
  | missing said => exact .said said same sinkReady ready rfl

/-- What holds of each round of a body holds of an iteration. -/
theorem files_rounded {plan : Plan} {loop? : Option LoopVariable} {body : Body} {index : Nat}
    {reached : Round Answer Frame}
    (bodies : ∀ frame w path r w', (body frame w).Ends path r w' → FilesGrow path →
      call.sink.Ready w.files → frame.Ready w.files →
      Leaves site frame w.files path r.2 w'.files)
    (h : Iteration.Rounded call plan loop? body index frame w path reached w')
    (grow : FilesGrow path) (same : site.sink = call.sink) (sinkReady : call.sink.Ready w.files)
    (ready : frame.Ready w.files) :
    Leaves site frame w.files path reached.value w'.files := by
  have turned : Leaves site frame w.files [.event ⟨[], .turned index⟩ w] frame w.files :=
    .quiet (by simp) w ready rfl
  cases h with
  | interrupted _ said => exact turned.append (.said said same sinkReady ready rfl)
  | ran _ said ran concluded =>
    have bound : (Iteration.bind loop? plan.iterations index frame).opened = frame.opened := by
      unfold Iteration.bind
      split <;> rfl
    have described := Leaves.said (g := Iteration.bind loop? plan.iterations index frame) said same
      sinkReady ready bound
    have sinkReady := sinkReady.mono described.filed.grows
    have inside := bodies _ _ _ _ _ ran grow.tail.right.left.of_under sinkReady described.ready
    have ended := Leaves.said (g := reached.value) concluded.said same
      (sinkReady.mono inside.filed.grows) inside.ready (by rw [concluded.value])
    exact turned.append (described.append ((inside.round index).append ended))

theorem files_looped {plan : Plan} {loop? : Option LoopVariable} {body : Body} {index : Nat}
    (bodies : ∀ frame w path r w', (body frame w).Ends path r w' → FilesGrow path →
      call.sink.Ready w.files → frame.Ready w.files →
      Leaves site frame w.files path r.2 w'.files)
    (h : Looped plan.iterations.has (Iteration.round call plan loop? body) (.ok true) index frame
      w path r w') (grow : FilesGrow path) (same : site.sink = call.sink)
    (sinkReady : call.sink.Ready w.files) (ready : frame.Ready w.files) :
    Leaves site frame w.files path r.2 w'.files := by
  induction h with
  | ended _ => exact .of_filed (.nil ..) ready rfl (by simp)
  | next _ went _ ih =>
    have first := files_rounded bodies (Iteration.rounded went) grow.left same sinkReady ready
    exact first.append (ih grow.right (sinkReady.mono first.filed.grows) first.ready)
  | stopped _ went => exact files_rounded bodies (Iteration.rounded went) grow same sinkReady ready

theorem files_carried (performs : Performer.Files perform) (runs : Runner.Files e.run)
    {d : Descriptor} (h : Action.Carried perform e call d frame w path r w')
    (grow : FilesGrow path) (same : site.sink = call.sink) (sinkReady : call.sink.Ready w.files)
    (ready : frame.Ready w.files) : Leaves site frame w.files path r.2 w'.files := by
  cases h with
  | unplanned _ said => exact .said said same sinkReady ready rfl
  | @ran plan before pause inside w₁ w₂ _ answer left _ warned waited went =>
    have told := Leaves.said warned same sinkReady ready rfl
    have paused : Leaves site frame w₁.files pause frame w₂.files := by
      rcases waited with ⟨rfl, rfl⟩ | ⟨reason, rfl⟩
      · exact .of_filed (.nil ..) told.ready rfl (by simp)
      · exact .of_filed (.waited grow.right.left) told.ready rfl
          (by simp)
    have sinkReady := (sinkReady.mono told.filed.grows).mono paused.filed.grows
    have bodies : ∀ frame w path r w',
        (Action.dispatch perform e (Action.inner call plan.policy) frame w).Ends path r w' →
        FilesGrow path → call.sink.Ready w.files → frame.Ready w.files →
        Leaves site frame w.files path r.2 w'.files := fun _ _ _ _ _ ran grow sinkReady ready =>
      files_dispatched performs runs (Action.dispatched ran) grow same sinkReady ready
    have looped := files_looped bodies went grow.right.right.left same sinkReady paused.ready
    have restored : (Iteration.restore (Iteration.saved? d.loopName plan frame.vars) left).opened =
        left.opened := by
      unfold Iteration.restore
      split <;> rfl
    have ended : Leaves site left w'.files [.event ⟨[], .finished answer⟩ w']
        (Iteration.restore (Iteration.saved? d.loopName plan frame.vars) left) w'.files :=
      .quiet (by simp) w' looped.ready restored
    exact told.append (paused.append (looped.append ended))

/-- Something happens whenever an action is carried out. -/
theorem events_carryOut {d : Descriptor}
    (h : (Action.carryOut perform e call d frame w).Ends path r w') : events path ≠ [] := by
  unfold Action.carryOut at h
  split at h
  · obtain ⟨_, said, rfl⟩ := ends_map.mp h
    obtain ⟨rfl, rfl⟩ := ends_sayLine.mp said
    simp
  · obtain ⟨_, rest, _, _, rfl, _, all⟩ := ends_bind.mp h
    obtain ⟨_, last, _, _, rfl, _, ended⟩ := ends_bind.mp all
    obtain ⟨_, finished, rfl⟩ := ends_map.mp ended
    obtain ⟨rfl, rfl⟩ := ends_tell.mp finished
    simp

/-- Opening an output file adds its path to those that are open, unless it is one of them. -/
theorem leaves_openFile {output : String} {frame' : Frame} (ready : frame.Ready w.files)
    (h : Outlet.openFile output frame w = .ok (frame', w')) :
    (∀ site, Filed site w.files [] w'.files) ∧ frame'.Ready w'.files ∧
      (frame.opened.Nodup → frame'.opened.Nodup) ∧
      ∀ path, path ∈ frame'.opened ↔ path ∈ frame.opened ∨ path = output := by
  unfold Outlet.openFile at h
  split at h
  · rename_i open_
    obtain ⟨rfl, rfl⟩ := Prod.mk.inj (Except.ok.inj h)
    have open_ : output ∈ frame.opened := by simpa using open_
    refine ⟨fun _ => .nil .., ready, id, fun path => ⟨.inl, ?_⟩⟩
    rintro (member | rfl)
    · exact member
    · exact open_
  · rename_i closed
    cases opened : w.files.openAppend output with
    | error fault => simp [opened, Except.map] at h
    | ok files =>
      obtain ⟨rfl, rfl⟩ : _ = frame' ∧ _ = w' := by simpa [opened, Except.map] using h
      obtain ⟨grows, opened, same⟩ := FileTree.openAppend_eq_ok opened
      refine ⟨fun _ => ⟨grows, fun later _ name => by simp [filed, same]⟩, ?_, fun distinct => ?_, by simp⟩
      · intro path member
        rcases List.mem_append.mp member with member | member
        · exact (ready path member).mono grows
        · exact List.mem_singleton.mp member ▸ opened
      · have closed : output ∉ frame.opened := by simpa using closed
        refine List.nodup_append.mpr ⟨distinct, by simp, ?_⟩
        rintro path member _ (_ | ⟨_, ⟨⟩⟩) rfl
        exact closed member

theorem files_scheduled (d : Descriptor) (answer : Answer) (left : Frame) (w : World) :
    (Action.scheduled d answer left w).files = w.files := by
  match answer with
  | .ok false | .error _ => rfl
  | .ok true =>
    obtain ⟨_, _, same⟩ := Action.schedule_eq d left w
    rw [Action.scheduled, same]

theorem opened_captureInto (name text : String) (answer : Answer) (left : Frame) :
    (Action.captureInto name text answer left).opened = left.opened := by
  match answer with
  | .ok true | .ok false | .error _ => rfl

theorem files_went (performs : Performer.Files perform) (runs : Runner.Files e.run)
    {d : Descriptor} {outlet : Outlet}
    (h : Action.Went (fun sink => Action.carryOut perform e { call with sink } d) call.sink outlet
      frame w path r w') (grow : FilesGrow path) (same : site.sink = call.sink)
    (sinkReady : (outlet.sink call.sink).Ready w.files) (ready : frame.Ready w.files) :
    Leaves (site.enter (.action ⟨d, outlet⟩)) frame w.files path r.2 w'.files ∧
      events path ≠ [] := by
  have entered : (site.enter (.action ⟨d, outlet⟩)).sink = outlet.sink call.sink :=
    congrArg outlet.sink same
  cases h with
  | plain _ ran =>
    exact ⟨files_carried performs runs (Action.carried ran) grow entered sinkReady ready,
      events_carryOut ran⟩
  | @captured name path inside answer left w₁ w' capture ran alike rest =>
    subst capture
    have leaves : Leaves (site.enter (.action ⟨d, .capture name⟩)) frame w.files inside left w₁.files :=
      files_carried performs runs (Action.carried ran) (grow.of_alike alike) entered sinkReady ready
    have files : w'.files = w₁.files := by rw [rest]
    refine ⟨?_, alike.events ▸ events_carryOut ran⟩
    rw [files]
    exact ⟨leaves.filed.alike alike, (leaves.congr rfl (opened_captureInto ..)).ready,
      (leaves.congr rfl (opened_captureInto ..)).distinct, fun output => by
        rw [opened_captureInto, leaves.outputs, alike.events]⟩

theorem files_ran (performs : Performer.Files perform) (runs : Runner.Files e.run)
    (h : Action.Ran perform e call frame w path r w') (grow : FilesGrow path)
    (same : site.sink = call.sink) (sinkReady : call.sink.Ready w.files)
    (ready : frame.Ready w.files) : Leaves site frame w.files path r.2 w'.files := by
  have invoked : ∀ d, Leaves site frame w.files
      [.event ⟨[], .invoked d⟩ (w.count "actions.executed")] frame w.files := fun d =>
    .quiet (by simp) _ ready rfl
  cases h with
  | @refused d _ left _ _ resolved =>
    cases resolved with
    | refused _ warned said =>
      have told := Leaves.said (w := w.count "actions.executed") warned same sinkReady ready rfl
      exact (invoked d).append (told.append
        (.said said same (sinkReady.mono told.filed.grows) told.ready rfl))
  | @ran d outlet path inside opened left answer _ _ _ resolved went =>
    rw [files_scheduled]
    cases resolved with
    | caller | capture =>
      obtain ⟨leaves, tells⟩ := files_went performs runs went grow.tail.right.of_under same
        (by first | exact sinkReady | simp [Sink.Ready, Outlet.sink]) ready
      exact (invoked d).append (leaves.action tells id (by simp))
    | @file output _ told _ _ named warned opening =>
      have said := Leaves.said (w := w.count "actions.executed") warned same sinkReady ready rfl
      obtain ⟨filed, ready, distinct, opens⟩ := leaves_openFile said.ready opening
      obtain ⟨leaves, tells⟩ := files_went performs runs went grow.tail.right.of_under same
        (by rintro path ⟨⟩; exact ready _ ((opens _).mpr (.inr rfl))) ready
      have inside := leaves.action (f := frame) tells distinct
        (fun path => by rw [opens, Outlet.file.injEq, eq_comm (a := path)])
      exact (invoked d).append (said.append ⟨(filed site).append inside.filed, inside.ready,
        inside.distinct, inside.outputs⟩)

theorem files_runner (performs : Performer.Files perform) (steps : Nat) :
    Runner.Files (Action.runner perform steps) := by
  induction steps with
  | zero =>
    intro site call frame w path r w' h
    simp [Action.runner] at h
  | succ steps ih =>
    intro site call frame w path r w' h
    exact files_ran performs ih (Action.ran h)

end Runs

section Commands

variable {site : Site} {sink : Sink} {w w' : World} {path : List (Step World)} {answer : Answer}

theorem Filed.say {text : String} {u : Unit} (h : (w.say sink text).Ends path u w')
    (same : site.sink = sink) (ready : sink.Ready w.files) : Filed site w.files path w'.files := by
  obtain ⟨rfl, rfl⟩ := ends_tell.mp h
  exact .wrote same ready text _

theorem Filed.sayLines {lines : List String} {u : Unit}
    (h : (w.sayLines sink lines).Ends path u w') (same : site.sink = sink)
    (ready : sink.Ready w.files) : Filed site w.files path w'.files := by
  induction lines generalizing w path with
  | nil =>
    obtain ⟨rfl, _, rfl⟩ := ends_done.mp h
    exact .nil ..
  | cons line rest ih =>
    obtain ⟨_, _, _, _, rfl, said, later⟩ := ends_bind.mp h
    have first := Filed.say said same ready
    exact first.append (ih later (ready.mono first.grows))

theorem Filed.done {r : Answer} (h : (done r w).Ends path answer w') :
    Filed site w.files path w'.files := by
  obtain ⟨rfl, _, rfl⟩ := ends_done.mp h
  exact .nil ..

theorem filed_sleepFor {milliseconds : String}
    (h : (Request.sleepFor milliseconds w).Ends path answer w') (grow : FilesGrow path) :
    Filed site w.files path w'.files := by
  unfold Request.sleepFor at h
  split at h
  · exact .done h
  · obtain ⟨_, slept, rfl⟩ := ends_map.mp h
    unfold World.sleep at slept
    split at slept
    · obtain ⟨rfl, _, rfl⟩ := ends_done.mp slept
      exact .nil ..
    · obtain ⟨_, _, _, _, rfl, waited, woken⟩ := ends_bind.mp slept
      obtain ⟨now, _, rfl, ended⟩ := ends_wait.mp waited
      obtain ⟨rfl, _, rfl⟩ := ends_done.mp ended
      obtain ⟨rfl, _, rfl⟩ := ends_done.mp woken
      exact Filed.waited grow

theorem filed_showTime {format : String}
    (h : (Request.showTime format sink w).Ends path answer w') (same : site.sink = sink)
    (ready : sink.Ready w.files) : Filed site w.files path w'.files := by
  unfold Request.showTime at h
  split at h
  · obtain ⟨_, said, rfl⟩ := ends_map.mp h
    exact .say said same ready
  · exact .done h

theorem filed_showFilter {filter? : Option String}
    (h : (Request.showFilter filter? sink w).Ends path answer w') (same : site.sink = sink)
    (ready : sink.Ready w.files) : Filed site w.files path w'.files := by
  unfold Request.showFilter at h
  split at h
  · obtain ⟨_, said, rfl⟩ := ends_map.mp h
    exact .say said same ready
  split at h
  · exact .done h
  · rename_i logFilter _
    obtain ⟨_, said, rfl⟩ := ends_map.mp h
    exact Filed.say (w := { w with logFilter }) said same ready

theorem filed_onBench {request : Bench.Request}
    (h : (Request.onBench request sink w).Ends path answer w') (same : site.sink = sink)
    (ready : sink.Ready w.files) : Filed site w.files path w'.files := by
  unfold Request.onBench at h
  split at h
  · rename_i bench _
    obtain ⟨_, said, rfl⟩ := ends_map.mp h
    exact Filed.say (w := { w with bench }) said same ready
  · rename_i bench _
    exact Filed.done (w := { w with bench }) h

theorem filed_shutDown (h : (Request.shutDown sink w).Ends path answer w')
    (same : site.sink = sink) (ready : sink.Ready w.files) : Filed site w.files path w'.files := by
  obtain ⟨_, _, _, _, rfl, said, later⟩ := ends_bind.mp h
  obtain ⟨_, told, rfl⟩ := ends_map.mp later
  obtain ⟨rfl, rfl⟩ := ends_tell.mp told
  exact (Filed.say said same ready).append (.quiet (by simp) _)

/-- A control file that a command runs opens files of its own. -/
theorem filed_runFile {e : Engine} (runs : Runner.Files e.run) {file : String}
    {rest : List String} (h : (Request.runFile e file rest sink w).Ends path answer w')
    (grow : FilesGrow path) (same : site.sink = sink) (ready : sink.Ready w.files) :
    Filed site w.files path w'.files := by
  unfold Request.runFile at h
  split at h
  · obtain ⟨_, said, rfl⟩ := ends_map.mp h
    exact .say said same ready
  · obtain ⟨_, ran, rfl⟩ := ends_map.mp h
    obtain ⟨_, inside, _⟩ := ends_map.mp ran
    exact (runs site _ _ _ _ _ _ inside grow same ready (by simp [Frame.Ready, Frame.fresh])).filed

theorem files_perform : Performer.Files Command.perform := by
  intro site e c args sink w path answer w' runs h grow same ready
  unfold Command.perform at h
  split at h
  · rename_i request _
    cases request with
    | help | echo =>
      obtain ⟨_, said, rfl⟩ := ends_map.mp h
      first | exact .sayLines said same ready | exact .say said same ready
    | sleep => exact filed_sleepFor h grow
    | currentTime => exact filed_showTime h same ready
    | controlFile => exact filed_runFile runs h grow same ready
    | fail => exact .done h
    | quit => exact filed_shutDown h same ready
    | loggingLevel => exact filed_showFilter h same ready
    | bench => exact filed_onBench h same ready
  · obtain ⟨_, said, rfl⟩ := ends_map.mp h
    exact .sayLines said same ready

end Commands

/-- What could not be opened can still not be opened after a line has been written. -/
theorem openAppend_noticed {d : Descriptor} {caller : Sink} {w : World} {output : String}
    {fault : PathFault} (failed : w.files.openAppend output = .error fault) :
    (Outlet.noticed d caller w).files.openAppend output = .error fault := by
  unfold Outlet.noticed
  split
  · cases caller with
    | text | console => exact failed
    | file path => exact FileTree.openAppend_append failed
  · exact failed

/-- Where its output file cannot be opened, an action tells its caller so, and that is all. -/
theorem invoke_unopened {perform : Performer} {e : Engine} {call : Call} {frame : Frame} {w : World}
    {d : Descriptor} {output : String} {fault : PathFault}
    (read : d = .read frame.control call.action frame.vars)
    (named : d.outputPath? = some output) (closed : output ∉ frame.opened)
    (failed : w.files.openAppend output = .error fault) :
    ∃ told w', Action.invoke perform e call frame w = after told (.done (.ok false, frame) w') ∧
      told.map Prod.fst = ⟨[], .invoked d⟩ ::
        ((Outlet.notice d call.sink (w.count "actions.executed")).map Prod.fst ++
          [⟨[], .wrote call.sink (Outlet.cannotOpen output d.name fault ++ "\n")⟩]) := by
  have again : Outlet.openFile output frame
      (Outlet.noticed d call.sink (w.count "actions.executed")) = .error fault := by
    simp only [Outlet.openFile, List.contains_iff_mem, closed, if_false,
      openAppend_noticed (w := w.count "actions.executed") failed, Except.map]
  generalize line : Outlet.cannotOpen output d.name fault = text
  generalize last : (Outlet.noticed d call.sink (w.count "actions.executed")).writeLine call.sink
    text = w'
  refine ⟨(⟨[], .invoked d⟩, w.count "actions.executed") ::
    (Outlet.notice d call.sink (w.count "actions.executed") ++
      [(⟨[], .wrote call.sink (text ++ "\n")⟩, w')]), w', ?_, by simp⟩
  simp only [Action.invoke, ← read, Outlet.resolve_file named, again, line, last, World.tell_eq,
    World.sayLine_eq, Course.map, bind_after, bind_done, ← after_append, List.cons_append,
    List.nil_append]

/-- Files hold what is written, and nothing is lost or written twice. In the run of a control file no
path is opened twice, and those that are opened are the paths of the files where the actions of the
run write. What a file held before the run is still there, followed by what has been written in the
run by the actions whose output goes to that file, in order; what an action tells of its own output
goes where its caller writes. An action whose file cannot be opened tells its caller so, and runs
nothing. -/
theorem files_hold_what_is_written (bound : Nat) (call : Call) (control : ControlFile)
    (vars : Variables) (w : World) (ready : call.sink.Ready w.files) :
    (∀ path r w',
      (Action.runner Command.perform bound call (.fresh control vars) w).Ends path r w' →
      FilesGrow path →
        r.2.opened.Nodup ∧
        (∀ output, output ∈ r.2.opened ↔ ∃ e ∈ events path, Outputs output e.layers) ∧
        ∀ name, w'.files.content name =
          w.files.content name ++ filed ⟨call.action, call.sink, false⟩ w'.files name path) ∧
    ∀ bound call frame w d output fault, d = Descriptor.read frame.control call.action frame.vars →
      d.outputPath? = some output → output ∉ frame.opened →
      w.files.openAppend output = .error fault →
        ∃ told w', Action.runner Command.perform (bound + 1) call frame w =
            after told (.done (.ok false, frame) w') ∧
          told.map Prod.fst = ⟨[], .invoked d⟩ ::
            ((Outlet.notice d call.sink (w.count "actions.executed")).map Prod.fst ++
              [⟨[], .wrote call.sink (Outlet.cannotOpen output d.name fault ++ "\n")⟩]) := by
  refine ⟨fun path r w' ends grow => ?_, fun bound call frame w d output fault read named closed
    failed => invoke_unopened read named closed failed⟩
  have leaves := files_runner files_perform bound ⟨call.action, call.sink, false⟩ call
    (.fresh control vars) w path r w' ends grow rfl ready (by simp [Frame.Ready, Frame.fresh])
  exact ⟨leaves.distinct (by simp [Frame.fresh]), fun output => by
    simpa [Frame.fresh] using leaves.outputs output, leaves.filed.content _ (.refl _)⟩

/-- A course that does not wait leaves nothing to others. -/
theorem filesGrow_of_direct? {α : Type} {c : Course World α} {r : List (Step World) × α × World}
    (h : c.direct? = some r) : FilesGrow r.1 := by
  induction c generalizing r with
  | stuck | wait => simp [direct?] at h
  | done a s =>
    cases h
    exact fun _ _ _ member => absurd member List.not_mem_nil
  | note e s next ih =>
    obtain ⟨rest, later, rfl⟩ := Option.map_eq_some_iff.mp h
    intro reason t now member
    rcases List.mem_cons.mp member with same | member
    · cases same
    · exact ih () later reason t now member

def doubled : ControlFile :=
  .ofList [("a", "echo"), ("a.param.1", "hi"), ("a.outputFile", "g"), ("a.assign", "x")]

def desk : World :=
  .fresh Command.withLog ⟨[], []⟩ ⟨0, 0⟩ ((FileTree.bare ["work"]).addNode ["work", "f"] (.file []))

def doubledDesk : World :=
  { desk.count "actions.executed" with
    files := (desk.files.append "f" (Text.toBytes (Outlet.assignIgnored "a" ++ "\n"))).addNode
      ["work", "g"] (.file []) }

def doubledBody : Course World (Answer × Frame) :=
  Action.through (fun sink => Action.carryOut Command.perform (Action.engine Command.perform 4)
      ⟨"a", sink, false⟩ (.read doubled "a" .empty)) (.file "f") (.file "g")
    ⟨doubled, .empty, ["g"]⟩ doubledDesk

theorem openFile_doubled :
    Outlet.openFile "g" (.fresh doubled .empty) (Outlet.noticed (.read doubled "a" .empty) (.file "f")
      (desk.count "actions.executed")) = .ok (⟨doubled, .empty, ["g"]⟩, doubledDesk) := by
  have told : (Outlet.noticed (.read doubled "a" .empty) (.file "f")
      (desk.count "actions.executed")).files =
        desk.files.append "f" (Text.toBytes (Outlet.assignIgnored "a" ++ "\n")) := by
    with_unfolding_all rfl
  have opened : (desk.files.append "f" (Text.toBytes (Outlet.assignIgnored "a" ++ "\n"))).openAppend
      "g" = .ok doubledDesk.files := by
    have shape := FileTree.sameShape_append desk.files "f"
      (Text.toBytes (Outlet.assignIgnored "a" ++ "\n"))
    have place : desk.files.opening "g" = .ok ["work", "g"] := by with_unfolding_all rfl
    have missing : desk.files.node? ["work", "g"] = none := by with_unfolding_all rfl
    have still := shape.node? ["work", "g"]
    rw [missing, Option.map_none, Option.map_eq_none_iff] at still
    rw [FileTree.openAppend_eq, shape.opening, place]
    simp only [Except.map, FileTree.withFile, still]
    rfl
  simp only [Outlet.openFile, told, opened]
  with_unfolding_all rfl

/-- The run of the action for a caller that writes to the other file. -/
theorem ends_doubled : ∃ path r w',
    (Action.runner Command.perform 5 ⟨"a", .file "f", false⟩ (.fresh doubled .empty) desk).Ends
      path r w' ∧ FilesGrow path ∧ r.1.toOption = some true ∧
    (∀ e ∈ events path, ∀ d, e.what = .invoked d → d.outputPath? = some "g") ∧
    w'.files = doubledDesk.files.append "g" (Text.toBytes "hi\n") := by
  have named : (Descriptor.read doubled "a" .empty).outputPath? = some "g" := by decide +kernel
  have resolved : (Outlet.resolve (.read doubled "a" .empty) (.file "f") (.fresh doubled .empty)
      (desk.count "actions.executed")).Ends
        (steps (Outlet.notice (.read doubled "a" .empty) (.file "f") (desk.count "actions.executed")))
        (some (.file "g"), ⟨doubled, .empty, ["g"]⟩) doubledDesk := by
    rw [Outlet.resolve_file named, openFile_doubled]
    exact reaches_after _ _
  have quiet : (doubledBody.direct?.any fun r =>
      decide (r.2.1.1.toOption = some true) && (events r.1).all fun e =>
        match e.what with
        | .invoked _ => false
        | _ => true) = true := by decide +kernel
  have files : doubledBody.direct?.map (·.2.2.files) =
      some (doubledDesk.files.append "g" (Text.toBytes "hi\n")) := by with_unfolding_all rfl
  cases ran : doubledBody.direct? with
  | none => simp [ran] at files
  | some r =>
    obtain ⟨inside, ⟨answer, left⟩, w'⟩ := r
    simp only [ran, Option.any_some, Bool.and_eq_true, decide_eq_true_eq, List.all_eq_true,
      Option.map_some, Option.some.injEq] at quiet files
    obtain ⟨success, quiet⟩ := quiet
    have ends := @Action.ends_invoke Command.perform (Action.engine Command.perform 4)
      ⟨"a", .file "f", false⟩ (.fresh doubled .empty) _ left desk _ w' _ inside _ answer _ rfl resolved
      (ends_of_direct? ran)
    refine ⟨_, _, _, ends, ?_, success, ?_, by rw [files_scheduled, files]⟩
    · exact ((filesGrow_steps _).append ((filesGrow_of_direct? ran).under _)).event _ _
    · intro e member d what
      simp only [events_event, events_append, events_steps, events_under, List.mem_cons,
        List.mem_append, List.mem_map] at member
      rcases member with rfl | ⟨told, noticed, rfl⟩ | ⟨inner, member, rfl⟩
      · obtain rfl := Happening.invoked.inj what
        exact named
      · unfold Outlet.notice at noticed
        split at noticed
        · obtain rfl := List.mem_singleton.mp noticed
          cases what
        · cases noticed
      · simpa [show inner.what = .invoked d from what] using quiet inner member

/-- What an action tells of its own output is in the file of its caller, although no action of the
run has its output there. -/
theorem notice_in_file_of_caller :
    desk.files.content "/work/f" = [] ∧ ∃ path r w',
      (Action.runner Command.perform 5 ⟨"a", .file "f", false⟩ (.fresh doubled .empty) desk).Ends
        path r w' ∧ FilesGrow path ∧ r.1.toOption = some true ∧
      (∀ e ∈ events path, ∀ d, e.what = .invoked d → d.outputPath? = some "g") ∧
      w'.files.target? "g" = some "/work/g" ∧
      w'.files.content "/work/f" = Text.toBytes (Outlet.assignIgnored "a" ++ "\n") := by
  obtain ⟨path, r, w', ends, grow, success, named, files⟩ := ends_doubled
  refine ⟨by with_unfolding_all rfl, path, r, w', ends, grow, success, named, ?_, ?_⟩
  all_goals
    rw [files]
    with_unfolding_all rfl

def misdirected : ControlFile := .ofList [("a", "echo"), ("a.outputFile", ".")]

theorem files_hold_what_is_written_doubled : (∃ path r w',
    (Action.runner Command.perform 5 ⟨"a", .file "f", false⟩ (.fresh doubled .empty) desk).Ends
      path r w' ∧ r.1.toOption = some true ∧ r.2.opened.Nodup ∧
    ∀ name, w'.files.content name =
      desk.files.content name ++ filed ⟨"a", .file "f", false⟩ w'.files name path) ∧
    ∃ told w', Action.runner Command.perform 5 ⟨"a", .console, false⟩ (.fresh misdirected .empty) desk =
      after told (.done (.ok false, .fresh misdirected .empty) w') := by
  have ready : Sink.Ready desk.files (.file "f") := by
    rintro _ ⟨⟩
    exact ⟨["work", "f"], .file [], by with_unfolding_all rfl, by with_unfolding_all rfl, by simp⟩
  have holds := files_hold_what_is_written 5 ⟨"a", .file "f", false⟩ doubled .empty desk ready
  obtain ⟨path, r, w', ends, grow, success, _⟩ := ends_doubled
  obtain ⟨distinct, _, contents⟩ := holds.1 path r w' ends grow
  obtain ⟨told, left, refused, _⟩ := holds.2 4 ⟨"a", .console, false⟩ (.fresh misdirected .empty)
    desk _ "." .isDirectory rfl (by decide +kernel) (by simp [Frame.fresh])
    (by with_unfolding_all rfl)
  exact ⟨⟨path, r, w', ends, success, distinct, contents⟩, told, left, refused⟩

end Runbook
