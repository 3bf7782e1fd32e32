import Runbook.Proofs.Constant
import Runbook.Proofs.ControlText
import Runbook.Proofs.Execution
import Runbook.Proofs.Likeness
import Runbook.Proofs.Reporting
/-! A block with a group of actions in it runs like the block with the actions of the group in its
place. A group is an action without modifiers that is a block itself, or another name for an
action; it only adds to the counter of the executed actions. -/
namespace Runbook

open Course

namespace ControlFile

variable {control control₀ : ControlFile} {a action : String} {vars : Variables}

theorem parametersFrom_congr
    (same : ∀ i, control₀.get? (parameterName action i) = control.get? (parameterName action i))
    (index count : Nat) :
    control₀.parametersFrom action vars index count =
      control.parametersFrom action vars index count := by
  induction count generalizing index with
  | zero => rfl
  | succ count ih => simp only [parametersFrom, same, ih]

theorem parameters_congr
    (same : ∀ i, control₀.get? (parameterName action i) = control.get? (parameterName action i)) :
    control₀.parameters action vars = control.parameters action vars := by
  rw [parameters, parameters, parametersFrom_eq (Nat.le_add_right control₀.size control.size),
    parametersFrom_eq (Nat.le_add_left control.size control₀.size), parametersFrom_congr same]

/-- Another entry for an action without a dot in its name changes its target alone. -/
theorem like_set (undotted : '.' ∉ a.toList) (value : String) :
    Like a control (control.set a value) where
  modifier? action m vars := by
    have other : m.entryName action ≠ a := by
      rintro rfl
      simp [Modifier.entryName] at undotted
    rw [modifier?, Table.get?_set_other _ _ other, modifier?]
  parameters action vars := parameters_congr fun i => by
    have other : parameterName action i ≠ a := by
      rintro rfl
      simp [parameterName] at undotted
    exact Table.get?_set_other _ _ other
  target action other vars := by rw [target, Table.get?_set_other _ _ other, target]

end ControlFile

/-- Text without a blank is one word at most. -/
theorem Text.words_of_not_hasBlank {text : String} (plain : Text.hasBlank text = false) :
    Text.words text = if text = "" then [] else [text] := by
  rw [Text.words, Text.runs, ControlFile.cut_of_not_mem (by simpa [Text.hasBlank] using plain)]
  by_cases empty : text = ""
  · subst empty
    rfl
  · have some_ : text.toList.isEmpty = false := by simpa using empty
    simp [some_, empty]

/-- An action that stands for names, which are run one after the other: a block of them, or the only
one by another name. Nothing else is said of it. -/
structure ControlFile.Groups (control : ControlFile) (catalogue : List Command) (b : String)
    (names : List String) : Prop where
  target : ∃ text, control.Reads b text ∧ Text.words text = names ∧
    (Text.hasBlank text = true ∨ Command.find? catalogue text = none ∧ text ≠ b)
  plain : ∀ m : Modifier, control.get? (m.entryName b) = none
  some_ : names ≠ []

inductive Regrouped (b : String) (names : List String) : List String → List String → Prop
  | nil : Regrouped b names [] []
  | keep (name : String) {l l' : List String} (rest : Regrouped b names l l') :
      Regrouped b names (name :: l) (name :: l')
  | open_ {l l' : List String} (rest : Regrouped b names l l') :
      Regrouped b names (b :: l) (names ++ l')

def Descriptor.plain (action : String) : Descriptor where
  name := action
  repeats := none
  foreach := none
  repeatUntil := none
  ignore := none
  loopVariable := none
  postponeUntil := none
  outputFile := none
  assign := none
  repeatEvery := none

def Plan.plain : Plan := ⟨⟨none, none⟩, .once, none, none, none⟩

theorem Plan.resolve_plain (action : String) : Plan.resolve (.plain action) = .ok .plain := rfl

namespace Action

variable {perform : Performer} {e : Engine} {run : Runner} {sink : Sink} {throws : Bool}
  {frame : Frame} {w : World}

theorem block_single (run : Runner) (call : Call) (name : String) :
    block run call [name] = run { call with action := name } := by
  funext frame w
  refine Eq.trans (congrArg (Course.bind _) (funext fun r => funext fun w => ?_)) (bind_done_right _)
  obtain ⟨answer, frame⟩ := r
  match answer with
  | .ok true | .ok false | .error _ => rfl

theorem block_append (run : Runner) (call : Call) (names more : List String) (frame : Frame)
    (w : World) :
    block run call (names ++ more) frame w =
      (block run call names frame w).bind fun (answer, frame) w =>
        match answer with
        | .ok true => block run call more frame w
        | other => .done (other, frame) w := by
  induction names generalizing frame w with
  | nil => rfl
  | cons name names ih =>
    rw [List.cons_append, block, block, bind_assoc]
    refine congrArg (Course.bind _) (funext fun r => funext fun w => ?_)
    obtain ⟨answer, frame⟩ := r
    match answer with
    | .ok true => exact ih frame w
    | .ok false | .error _ => rfl

/-- What the action of the call is called does not matter to a block. -/
theorem block_action (run : Runner) (call : Call) (action : String) (names : List String) :
    block run { call with action } names = block run call names := by
  induction names with
  | nil => rfl
  | cons name names ih =>
    funext frame w
    rw [block, block, ih]

end Action

namespace ControlFile.Groups

variable {control : ControlFile} {catalogue : List Command} {b : String} {names : List String}
  (h : control.Groups catalogue b names) {perform : Performer} {e : Engine} {sink : Sink}
  {throws : Bool} {frame : Frame} {w : World}
include h

theorem read (vars : Variables) : Descriptor.read control b vars = .plain b := by
  simp only [Descriptor.read, ControlFile.modifier?, h.plain, Option.map_none]
  rfl

theorem dispatch (own : frame.control = control) (known : w.catalogue = catalogue) :
    Action.dispatch perform e ⟨b, sink, throws⟩ frame w =
      Action.block e.run ⟨b, sink, throws⟩ names frame w := by
  obtain ⟨text, reads, words, kind⟩ := h.target
  simp only [Action.dispatch, own, reads.target]
  by_cases blank : Text.hasBlank text = true
  · rw [if_pos blank, words]
  · obtain ⟨missing, other⟩ := kind.resolve_left blank
    have single : names = [text] := by
      rw [← words, Text.words_of_not_hasBlank (by simpa using blank), if_neg]
      rintro rfl
      exact h.some_ (words ▸ rfl)
    have unknown : w.command? text = none := by rw [World.command?, known, missing]
    rw [if_neg blank, unknown, single, Action.block_single]
    simp only [if_pos other]

/-- No description is written. -/
theorem describe (own : frame.control = control) (m : Modifier) :
    Iteration.describe m ⟨b, sink, throws⟩ frame w = .done () w := by
  simp only [Iteration.describe, own, ControlFile.modifier?, h.plain, Option.map_none]

/-- What follows the names of a group in its loop, which may go round `limit` times more. -/
def closing (b : String) (sink : Sink) (throws : Bool) (limit : Nat) (r : Answer × Frame)
    (w : World) : Course World (Answer × Frame) :=
  ((Iteration.conclude ⟨b, sink, throws⟩ Plan.plain.policy r.1 r.2 w).bind fun reached w =>
    match reached, limit with
    | .next _, 0 => .stuck
    | .next frame, _ + 1 => .done (.ok true, frame) w
    | .stop answer frame, _ => .done (answer, frame) w).bind fun r w =>
      (w.tell (.finished r.1)).map fun _ => r

/-- A group comes to what its names have come to. -/
theorem closing_eq {r : Answer × Frame} (own : r.2.control = control)
    (thrown : throws = false → ∃ ok, r.1 = .ok ok) {limit : Nat}
    (once : 0 < limit ∨ r.1 ≠ .ok true) :
    closing b sink throws limit r w = after [(⟨[], .finished r.1⟩, w)] (.done r w) := by
  obtain ⟨answer, frame⟩ := r
  match answer with
  | .ok true =>
    obtain ⟨limit, rfl⟩ : ∃ n, limit = n + 1 := ⟨limit - 1, by simp at once; omega⟩
    simp only [closing, Iteration.conclude, h.describe own, Course.map, bind_done]
    rfl
  | .ok false => rfl
  | .error f =>
    have throws : throws = true := by
      cases throws with
      | true => rfl
      | false =>
        obtain ⟨_, impossible⟩ := thrown rfl
        cases impossible
    subst throws
    rfl

/-- A loop that may not go round again is stuck, where the names have succeeded. -/
theorem closing_zero (own : frame.control = control) :
    closing b sink throws 0 (.ok true, frame) w = .stuck := by
  simp only [closing, Iteration.conclude, h.describe own, Course.map, bind_done]
  rfl

/-- A group is its names, less what it tells of itself. -/
theorem all_eq (own : frame.control = control) (running : w.shutdown = false) (body : Body)
    (limit : Nat) :
    Iteration.all ⟨b, sink, throws⟩ b .plain body (limit + 1) frame w =
      after [(⟨[], .turned 0⟩, w)]
        (((body frame w).under (.round 0)).bind (closing b sink throws limit)) := by
  have first := @Iteration.round_eq ⟨b, sink, throws⟩ .plain none body 0 _ _ _ running rfl
    (h.describe own _)
  refine (congrArg (Course.bind · _) ((loop_succ rfl).trans (congrArg (Course.bind · _) first))).trans ?_
  rw [bind_after, bind_after, bind_assoc, bind_assoc]
  refine congrArg (fun F => after _ (Course.bind _ F)) (funext fun r => funext fun w => ?_)
  rw [closing, bind_assoc]
  refine congrArg (Course.bind _) (funext fun reached => funext fun w => ?_)
  cases reached with
  | next frame => cases limit <;> rfl
  | stop answer frame => rfl

abbrev layer (b : String) : Layer := .action ⟨.plain b, .caller⟩

theorem invoke_eq (own : frame.control = control) (known : w.catalogue = catalogue)
    (running : w.shutdown = false) (run : Runner) (limit : Nat) :
    Action.invoke perform ⟨run, limit + 1⟩ ⟨b, sink, throws⟩ frame w =
      after [(⟨[], .invoked (.plain b)⟩, w.count "actions.executed"),
        (⟨[layer b], .turned 0⟩, w.count "actions.executed")]
        ((((Action.block run ⟨b, sink, throws⟩ names frame (w.count "actions.executed")).under
          (.round 0)).bind (closing b sink throws limit)).under (layer b)) := by
  have carried : Action.carryOut perform ⟨run, limit + 1⟩ ⟨b, sink, throws⟩ (.plain b) frame
      (w.count "actions.executed") = after [(⟨[], .turned 0⟩, w.count "actions.executed")]
        (((Action.block run ⟨b, sink, throws⟩ names frame (w.count "actions.executed")).under
          (.round 0)).bind (closing b sink throws limit)) := by
    rw [Action.carryOut, Plan.resolve_plain]
    have still : (w.count "actions.executed").shutdown = false := running
    refine (h.all_eq own still _ limit).trans ?_
    have inner : Action.inner ⟨b, sink, throws⟩ Plan.plain.policy = ⟨b, sink, throws⟩ := by
      cases throws <;> rfl
    rw [inner, h.dispatch own (by exact known)]
  have through : Action.invokeThrough perform ⟨run, limit + 1⟩ ⟨b, sink, throws⟩ (.plain b) .caller
      frame (w.count "actions.executed") = (Action.carryOut perform ⟨run, limit + 1⟩
        ⟨b, sink, throws⟩ (.plain b) frame (w.count "actions.executed")).under (layer b) := by
    refine Eq.trans (congrArg (Course.bind _) (funext fun r => funext fun w => ?_)) (bind_done_right _)
    obtain ⟨answer, frame⟩ := r
    rcases answer with f | _ | _ <;> rfl
  rw [Action.invoke, own, h.read, World.tell_eq, bind_after, bind_done,
    Outlet.resolve_caller rfl rfl, bind_done]
  refine congrArg (after _) (through.trans ?_)
  rw [carried, under_after]
  rfl

theorem invoke_zero (own : frame.control = control) (run : Runner) :
    Action.invoke perform ⟨run, 0⟩ ⟨b, sink, throws⟩ frame w =
      after [(⟨[], .invoked (.plain b)⟩, w.count "actions.executed")] .stuck := by
  rw [Action.invoke, own, h.read, World.tell_eq, bind_after, bind_done,
    Outlet.resolve_caller rfl rfl, bind_done]
  rfl

variable {k : List Command × Bool} {control₀ : ControlFile} {body : Body} {run : Runner}

/-- A group is mirrored by what mirrors its names. -/
theorem mirrors_left (known : k = (catalogue, false))
    (mirrors : Body.Mirrors k control control₀ (Action.block run ⟨b, sink, throws⟩ names) body)
    (reports : throws = false → ∀ frame w path r w',
      (Action.block run ⟨b, sink, throws⟩ names frame w).Ends path r w' → ∃ ok, r.1 = .ok ok)
    (limit : Nat) :
    Body.Mirrors k control control₀ (Action.invoke perform ⟨run, limit⟩ ⟨b, sink, throws⟩) body := by
  intro frame w w₀ own near set
  cases limit with
  | zero =>
    rw [h.invoke_zero own]
    exact .left rfl .stuck
  | succ limit =>
    obtain ⟨catalogue, running⟩ := Prod.mk.inj (set.trans known)
    rw [h.invoke_eq own catalogue running, ← bind_done_right (body _ _)]
    have inside := (mirrors frame (w.count "actions.executed") w₀ own
      (w.near_executed.symm.trans near) set).known fun path r w' ends thrown =>
        reports thrown _ _ path r w' ends
    refine .left rfl (.left rfl (Mirror.under_left ((inside.under_left _).bind
      fun r r₀ w w₀ related near set => ?_) _))
    obtain ⟨⟨own, rfl⟩, thrown⟩ := related
    by_cases once : 0 < limit ∨ r.1 ≠ .ok true
    · rw [h.closing_eq own thrown once]
      exact .left rfl (.done near set ⟨own, rfl⟩)
    · obtain ⟨answer, frame⟩ := r
      obtain ⟨rfl, rfl⟩ : limit = 0 ∧ answer = .ok true := by
        simpa [not_or] using once
      rw [h.closing_zero own]
      exact .stuck

/-- A group mirrors what its names mirror, if its loop may go round often enough. -/
theorem mirrors_right (known : k = (catalogue, false))
    (mirrors : Body.Mirrors k control₀ control body (Action.block run ⟨b, sink, throws⟩ names))
    (reports : throws = false → ∀ frame w path r w',
      (body frame w).Ends path r w' → ∃ ok, r.1 = .ok ok) (limit : Nat) :
    Body.Mirrors k control₀ control body
      (Action.invoke perform ⟨run, limit + 2⟩ ⟨b, sink, throws⟩) := by
  intro frame w w₀ own near set
  obtain ⟨catalogue, running⟩ := Prod.mk.inj (near.setting.trans (set.trans known))
  rw [h.invoke_eq rfl catalogue running, ← bind_done_right (body _ _)]
  have inside := (mirrors frame w (w₀.count "actions.executed") own
    (near.trans w₀.near_executed) set).known fun path r w' ends thrown =>
      reports thrown _ _ path r w' ends
  refine .right rfl (.right rfl (Mirror.under_right ((inside.under_right _).bind
    fun r r₀ w w₀ related near set => ?_) _))
  obtain ⟨⟨own, rfl⟩, thrown⟩ := related
  rw [h.closing_eq (r := (r.1, r.2.reading control)) rfl thrown (.inl (Nat.succ_pos limit))]
  exact .right rfl (.done near set ⟨own, rfl⟩)

end ControlFile.Groups

namespace Action

variable {perform : Performer} {run : Runner} {sink : Sink}

/-- A run that reports lets no failure out. -/
theorem reports_runner (perform : Performer) (bound : Nat) {action : String} {frame : Frame}
    {w w' : World} {path : List (Step World)} {r : Answer × Frame}
    (h : (runner perform bound ⟨action, sink, false⟩ frame w).Ends path r w') :
    ∃ ok, r.1 = .ok ok := by
  cases bound with
  | zero => simp [runner] at h
  | succ bound => exact Reporting.ran_reported rfl (ran h)

theorem reports_block (perform : Performer) (bound : Nat) {action : String} {names : List String}
    {frame : Frame} {w w' : World} {path : List (Step World)} {r : Answer × Frame}
    (h : (block (runner perform bound) ⟨action, sink, false⟩ names frame w).Ends path r w') :
    ∃ ok, r.1 = .ok ok := by
  have inside := blocked h
  clear h
  induction inside with
  | ended => exact ⟨true, rfl⟩
  | next _ _ ih => exact ih
  | stopped ran _ => exact reports_runner perform bound ran

end Action

section Blocks

variable {k : List Command × Bool} {control control₀ : ControlFile} {run run₀ : Runner} {call : Call}

theorem mirrors_append {names names₀ more more₀ : List String}
    (first : Body.Mirrors k control control₀ (Action.block run call names)
      (Action.block run₀ call names₀))
    (rest : Body.Mirrors k control control₀ (Action.block run call more)
      (Action.block run₀ call more₀)) :
    Body.Mirrors k control control₀ (Action.block run call (names ++ more))
      (Action.block run₀ call (names₀ ++ more₀)) := by
  intro frame w w₀ own near set
  rw [Action.block_append, Action.block_append]
  refine (first frame w w₀ own near set).bind fun r r₀ w w₀ related near set => ?_
  obtain ⟨own, rfl⟩ := related
  obtain ⟨answer, frame⟩ := r
  match answer with
  | .ok true => exact rest frame w w₀ own near set
  | .ok false | .error _ => exact .done near set ⟨own, rfl⟩

variable {b : String} {names l l' : List String}

/-- Opening a group is mirrored by its names. -/
theorem mirrors_opened (regrouped : Regrouped b names l l')
    (runs : ∀ name, Body.Mirrors k control control₀ (run { call with action := name })
      (run₀ { call with action := name }))
    (group : Body.Mirrors k control control₀ (run { call with action := b })
      (Action.block run₀ call names)) :
    Body.Mirrors k control control₀ (Action.block run call l) (Action.block run₀ call l') := by
  induction regrouped with
  | nil => exact fun frame w w₀ own near set => .done near set ⟨own, rfl⟩
  | keep name _ ih =>
    have single := runs name
    rw [← Action.block_single run, ← Action.block_single run₀] at single
    exact mirrors_append single ih
  | open_ _ ih =>
    rw [← Action.block_single run] at group
    exact mirrors_append group ih

/-- And the names are mirrored by the group. -/
theorem mirrors_closed (regrouped : Regrouped b names l l')
    (runs : ∀ name, Body.Mirrors k control control₀ (run { call with action := name })
      (run₀ { call with action := name }))
    (group : Body.Mirrors k control control₀ (Action.block run call names)
      (run₀ { call with action := b })) :
    Body.Mirrors k control control₀ (Action.block run call l') (Action.block run₀ call l) := by
  induction regrouped with
  | nil => exact fun frame w w₀ own near set => .done near set ⟨own, rfl⟩
  | keep name _ ih =>
    have single := runs name
    rw [← Action.block_single run, ← Action.block_single run₀] at single
    exact mirrors_append single ih
  | open_ _ ih =>
    rw [← Action.block_single run₀] at group
    exact mirrors_append group ih

end Blocks

theorem Regrouped.length_le {b : String} {names l l' : List String} (h : Regrouped b names l l')
    (some_ : names ≠ []) : l.length ≤ l'.length := by
  have : 0 < names.length := List.length_pos_iff.mpr some_
  induction h with
  | nil => exact Nat.le_refl _
  | keep _ _ ih => simpa using ih
  | open_ _ ih =>
    simp only [List.length_cons, List.length_append]
    omega

/-- A block in a control file with a group in it, and a value for the block that has the names of the
group in its place. -/
structure ControlFile.Regroups (control : ControlFile) (catalogue : List Command) (a b : String)
    (names : List String) (value : String) : Prop where
  undotted : '.' ∉ a.toList
  group : control.Groups catalogue b names
  closed : Placeholder.Closed value.toList
  block : ∃ text, control.Reads a text ∧ 2 ≤ (Text.words text).length ∧
    Regrouped b names (Text.words text) (Text.words (ControlFile.unquote value))

theorem ControlFile.Reads.dispatch_block {control : ControlFile} {a text : String}
    (h : control.Reads a text) (several : 2 ≤ (Text.words text).length) {perform : Performer}
    {e : Engine} {sink : Sink} {throws : Bool} {frame : Frame} (own : frame.control = control)
    (w : World) :
    Action.dispatch perform e ⟨a, sink, throws⟩ frame w =
      Action.block e.run ⟨a, sink, throws⟩ (Text.words text) frame w := by
  have blank : Text.hasBlank text = true := by
    by_contra plain
    rw [Text.words_of_not_hasBlank (by simpa using plain)] at several
    split at several <;> simp at several
  simp only [Action.dispatch, own, h.target, blank, if_true]

namespace ControlFile.Regroups

variable {control : ControlFile} {catalogue : List Command} {a b value : String}
  {names : List String} (h : control.Regroups catalogue a b names value)
include h

theorem reads_set : Reads (control.set a value) a (unquote value) :=
  ⟨value, Table.get?_set_same .., h.closed, rfl⟩

variable {k : List Command × Bool} (known : k.1 = catalogue)
include known

/-- Every run is mirrored by the one with the names in place of the group. -/
theorem mirrors_opening (n m : Nat) (le : n ≤ m) :
    Runner.Mirrors k (Pairing control (control.set a value)) (Action.runner Command.perform n)
      (Action.runner Command.perform m) := by
  obtain ⟨text, reads, several, regrouped⟩ := h.block
  have several' := Nat.le_trans several (regrouped.length_le h.group.some_)
  induction n using Nat.strong_induction_on generalizing m with
  | h n ih =>
    intro c c₀ paired call
    cases n with
    | zero => exact fun _ _ _ _ _ _ => .stuck
    | succ n =>
      obtain ⟨m, rfl⟩ : ∃ j, m = j + 1 := ⟨m - 1, by omega⟩
      have runs := ih n (Nat.lt_succ_self n) m (by omega)
      refine @mirrors_step k a _ _ (Action.engine Command.perform n) (Action.engine Command.perform m)
        (like_set h.undotted value) runs (Nat.le_of_succ_le_succ le) (fun running sink throws => ?_)
        c c₀ paired call
      -- The group runs its names one level deeper than they are run in its place.
      have group : Body.Mirrors k control (control.set a value)
          (Action.runner Command.perform n ⟨b, sink, throws⟩)
          (Action.block (Action.runner Command.perform m) ⟨a, sink, throws⟩ names) := by
        cases n with
        | zero => exact fun _ _ _ _ _ _ => .stuck
        | succ n =>
          refine h.group.mirrors_left (Prod.ext known running) ?_ ?_ n
          · rw [← Action.block_action _ ⟨a, sink, throws⟩ b]
            exact mirrors_block (ih n (by omega) m (by omega)) (.inr ⟨rfl, rfl⟩) _ names
          · rintro rfl _ _ _ _ _ ends
            exact Action.reports_block _ _ ends
      intro frame w w₀ own near set
      rw [reads.dispatch_block several own, h.reads_set.dispatch_block several' rfl]
      exact mirrors_opened regrouped (fun name => runs _ _ (.inr ⟨rfl, rfl⟩) _) group frame w w₀ own
        near set

/-- And that one is mirrored by the run with the group, which takes two levels for one of the
other. -/
theorem mirrors_closing (n m : Nat) (le : 2 * n + 2 ≤ m) :
    Runner.Mirrors k (Pairing (control.set a value) control) (Action.runner Command.perform n)
      (Action.runner Command.perform m) := by
  obtain ⟨text, reads, several, regrouped⟩ := h.block
  have several' := Nat.le_trans several (regrouped.length_le h.group.some_)
  induction n using Nat.strong_induction_on generalizing m with
  | h n ih =>
    intro c c₀ paired call
    cases n with
    | zero => exact fun _ _ _ _ _ _ => .stuck
    | succ n =>
      obtain ⟨m, rfl⟩ : ∃ j, m = j + 2 + 2 := ⟨m - 4, by omega⟩
      have runs := ih n (Nat.lt_succ_self n) (m + 3) (by omega)
      refine @mirrors_step k a _ _ (Action.engine Command.perform n)
        (Action.engine Command.perform (m + 3)) (like_set h.undotted value).symm runs
        (by simp only [Action.engine]; omega) (fun running sink throws => ?_) c c₀ paired call
      have group : Body.Mirrors k (control.set a value) control
          (Action.block (Action.runner Command.perform n) ⟨a, sink, throws⟩ names)
          (Action.runner Command.perform (m + 3) ⟨b, sink, throws⟩) := by
        refine h.group.mirrors_right (Prod.ext known running) ?_ ?_ m
        · rw [← Action.block_action _ ⟨a, sink, throws⟩ b]
          exact mirrors_block (ih n (by omega) (m + 2) (by omega)) (.inr ⟨rfl, rfl⟩) _ names
        · rintro rfl _ _ _ _ _ ends
          exact Action.reports_block _ _ ends
      intro frame w w₀ own near set
      rw [h.reads_set.dispatch_block several' own, reads.dispatch_block several rfl]
      exact mirrors_closed regrouped (fun name => runs _ _ (.inr ⟨rfl, rfl⟩) _) group frame w w₀ own
        near set

end ControlFile.Regroups

/-- Whatever a run comes to while nothing strays, another run comes to: it gives the same answer, says
the same to every sink, has the same variables and open files in the end, and leaves a world that
differs in the counter of the executed actions alone. What it finds in its waits is only near to what
the first one has found. -/
def Course.ReproducedBy (k : List Command × Bool) (c d : Course World (Answer × Frame)) : Prop :=
  ∀ path answer left w', c.Ends path (answer, left) w' → Steady k path →
    ∀ nows, List.Forall₂ World.Near (found path) nows →
      ∃ path₀ left₀ w₀', d.Ends path₀ (answer, left₀) w₀' ∧ found path₀ = nows ∧
        written path₀ = written path ∧ left₀.vars = left.vars ∧ left₀.opened = left.opened ∧
        w'.Near w₀'

theorem Body.Mirrors.reproduced {k : List Command × Bool} {control control₀ : ControlFile}
    {body body₀ : Body} (h : Body.Mirrors k control control₀ body body₀) {w : World}
    (set : w.setting = k) (vars : Variables) (opened : List String) :
    ReproducedBy k (body ⟨control, vars, opened⟩ w) (body₀ ⟨control₀, vars, opened⟩ w) := by
  intro path answer left w' ends steady nows near
  obtain ⟨path₀, r₀, w₀', ends₀, same, said, related, last⟩ :=
    (h ⟨control, vars, opened⟩ w w rfl (.refl w) set).ends ends steady near
  obtain ⟨_, rfl⟩ := related
  exact ⟨path₀, _, w₀', ends₀, same, said, rfl, rfl, last⟩

/-- Where a block has the names of a group in place of the group, every run does the same as before.
This holds in both directions: the run with the group ends wherever the other one does. -/
theorem regrouping_changes_nothing {control : ControlFile} {a b value : String}
    {names : List String} {w : World} (h : control.Regroups w.catalogue a b names value) (call : Call)
    (vars : Variables) (opened : List String) :
    (∀ n m, n ≤ m → ReproducedBy w.setting
      (Action.runner Command.perform n call ⟨control, vars, opened⟩ w)
      (Action.runner Command.perform m call ⟨control.set a value, vars, opened⟩ w)) ∧
    ∀ n m, 2 * n + 2 ≤ m → ReproducedBy w.setting
      (Action.runner Command.perform n call ⟨control.set a value, vars, opened⟩ w)
      (Action.runner Command.perform m call ⟨control, vars, opened⟩ w) :=
  ⟨fun n m le => Body.Mirrors.reproduced
      (h.mirrors_opening rfl n m le _ _ (.inr ⟨rfl, rfl⟩) call) rfl vars opened,
    fun n m le => Body.Mirrors.reproduced
      (h.mirrors_closing rfl n m le _ _ (.inr ⟨rfl, rfl⟩) call) rfl vars opened⟩

def nowhere : World := .fresh Command.withLog ⟨[], []⟩ ⟨0, 0⟩ (FileTree.bare [])

def nested : ControlFile := .ofList [("a", "b z"), ("b", "x y"), ("x", "echo"), ("x.param.1", "one"),
  ("y", "echo"), ("y.param.1", "two"), ("z", "echo"), ("z.param.1", "three")]

theorem regroups_nested : nested.Regroups nowhere.catalogue "a" "b" ["x", "y"] "x y z" where
  undotted := by decide
  group := {
    target := ⟨"x y", ⟨_, rfl, Placeholder.closed_of_not_mem (by decide), by decide +kernel⟩,
      by decide +kernel, .inl (by decide)⟩
    plain := fun m => by cases m <;> rfl
    some_ := by decide }
  closed := Placeholder.closed_of_not_mem (by decide)
  block := by
    refine ⟨"b z", ⟨_, rfl, Placeholder.closed_of_not_mem (by decide), by decide +kernel⟩,
      by decide +kernel, ?_⟩
    have before : Text.words "b z" = ["b", "z"] := by decide +kernel
    have after : Text.words (ControlFile.unquote "x y z") = ["x", "y"] ++ ["z"] := by decide +kernel
    rw [before, after]
    exact .open_ (.keep "z" .nil)

/-- Whether a course comes to its end with an answer and a text, and nothing strays on the way. -/
def Course.settlesWith (k : List Command × Bool) (ok : Bool) (text : String)
    (c : Course World (Answer × Frame)) : Bool :=
  c.direct?.any fun r => decide (r.2.1.1.toOption = some ok) && decide (r.2.2.text = text) &&
    r.1.all fun step => decide (step.state.setting = k) && match step with
      | .event e _ => decide ¬ e.what.Strays
      | .waited .. => false

theorem Course.of_settlesWith {k : List Command × Bool} {ok : Bool} {text : String}
    {c : Course World (Answer × Frame)} (h : c.settlesWith k ok text = true) :
    ∃ path left w', c.Ends path (.ok ok, left) w' ∧ Steady k path ∧ found path = [] ∧
      w'.text = text := by
  obtain ⟨⟨path, ⟨answer, left⟩, w'⟩, ran, fine⟩ := (Option.any_eq_true _ _).mp h
  simp only [Bool.and_eq_true, decide_eq_true_eq, List.all_eq_true] at fine
  obtain ⟨⟨answered, said⟩, steady⟩ := fine
  obtain rfl : answer = .ok ok := by
    match answer, answered with
    | .ok _, rfl => rfl
  refine ⟨path, left, w', ends_of_direct? ran, ⟨fun step member => (steady step member).1, ?_⟩, ?_,
    said⟩
  · intro e member strays
    obtain ⟨step, inside, same⟩ := List.mem_filterMap.mp member
    cases step with
    | event e' s =>
      obtain rfl := Option.some.inj same
      simpa [strays] using (steady _ inside).2
    | waited => cases same
  · refine List.filterMap_eq_nil_iff.mpr fun step member => ?_
    cases step with
    | event => rfl
    | waited => simpa using (steady _ member).2

theorem regrouping_changes_nothing_nested : ∃ path left w',
    (Action.runner Command.perform 5 ⟨"a", .text, false⟩ (.fresh (nested.set "a" "x y z") .empty)
      nowhere).Ends path (.ok true, left) w' ∧ w'.text = "one\ntwo\nthree\n" := by
  have settles : (Action.runner Command.perform 5 ⟨"a", .text, false⟩ (.fresh nested .empty)
      nowhere).settlesWith nowhere.setting true "one\ntwo\nthree\n" = true := by decide +kernel
  obtain ⟨path, left, w', ends, steady, waits, said⟩ := of_settlesWith settles
  have alike := regrouping_changes_nothing regroups_nested ⟨"a", .text, false⟩ .empty []
  obtain ⟨path₀, left₀, w₀', ends₀, _, _, _, _, near⟩ :=
    alike.1 5 5 (Nat.le_refl 5) path (.ok true) left w' ends steady [] (by rw [waits]; exact .nil)
  exact ⟨path₀, left₀, w₀', ends₀, near.text.trans said⟩

/-- A block whose value has no placeholder, although it has a bracket that might open one. The group
in it has a name that might close it. -/
def bracketed : ControlFile := .ofList [("<n:foo", "echo"), ("<n:foo.param.1", "one"),
  ("x>", "echo"), ("x>.param.1", "two"), ("y", "echo"), ("y.param.1", "three"), ("c", "echo"),
  ("c.param.1", "four"), ("b", "x> y"), ("a", "<n:foo b c")]

/-- With the names of the group in its place there is a placeholder, and another run: all that the
block needs but a value without a placeholder does not keep the two runs together. -/
theorem regrouping_closes_bracket :
    '.' ∉ "a".toList ∧ '.' ∉ "b".toList ∧ bracketed.Groups nowhere.catalogue "b" ["x>", "y"] ∧
    bracketed.Reads "a" "<n:foo b c" ∧ Text.words "<n:foo b c" = ["<n:foo", "b", "c"] ∧
    Text.words (ControlFile.unquote "<n:foo x> y c") = ["<n:foo", "x>", "y", "c"] ∧
    (∃ path left w', (Action.runner Command.perform 5 ⟨"a", .text, false⟩ (.fresh bracketed .empty)
      nowhere).Ends path (.ok true, left) w' ∧ Steady nowhere.setting path ∧ found path = [] ∧
      w'.text = "one\ntwo\nthree\nfour\n") ∧
    ∃ path left w', (Action.runner Command.perform 5 ⟨"a", .text, false⟩
      (.fresh (bracketed.set "a" "<n:foo x> y c") .empty) nowhere).Ends path (.ok false, left) w' ∧
      Steady nowhere.setting path ∧ found path = [] ∧
      w'.text = "Action 'foo' not found in the control file\n" := by
  have closed : Placeholder.Closed "<n:foo b c".toList :=
    Placeholder.closed_bracket (by decide) (by decide)
  refine ⟨by decide, by decide, ⟨⟨"x> y", ⟨_, rfl, Placeholder.closed_of_not_mem (by decide),
    by decide +kernel⟩, by decide +kernel, .inl (by decide)⟩, fun m => by cases m <;> rfl, by decide⟩,
    ⟨_, rfl, closed, by decide +kernel⟩, by decide +kernel, by decide +kernel,
    of_settlesWith (by decide +kernel), of_settlesWith (by decide +kernel)⟩

end Runbook
