import Runbook.Command.Perform
import Runbook.Proofs.Decimals
import Runbook.Proofs.Execution
import Runbook.Proofs.Growth
/-! Actions that have no plan, since something is wrong with a modifier. The first thing that is
wrong is told, and nothing else happens. -/
namespace Runbook

inductive Descriptor.Wrong (d : Descriptor) : PlanFault → Prop
  | unknownUntil {text} (given : d.repeatUntil.bind Text.nonBlank = some text)
      (unknown : FailureClass.ofName? text = none) : Wrong d (.unknownUntil text)
  | unknownIgnored {text} (given : d.ignore.bind Text.nonBlank = some text)
      (unknown : FailureClass.ofName? text = none) : Wrong d (.unknownIgnored text)
  | badCount {text} (noValues : d.foreach = none) (given : d.repeats = some text)
      (noNumeral : ¬ Numeral.Unsigned64 (Text.trim text).toList) : Wrong d (.badCount text)
  | badTime {text} (given : d.postponeUntil.bind Text.nonBlank = some text)
      (noTime : TimeOfDay.parse? text = none) : Wrong d (.badTime text)
  | badInterval {text} (given : d.repeatEvery.bind Text.nonBlank = some text)
      (noInterval : Interval.parse? text = none) : Wrong d (.badInterval text)

/-- The place of a fault in the order in which they are looked for. -/
def PlanFault.place : PlanFault → Nat
  | .unknownUntil _ => 0
  | .unknownIgnored _ => 1
  | .badCount _ => 2
  | .badTime _ => 3
  | .badInterval _ => 4

section Faults

variable {ε α β : Type} {d : Descriptor} {fault : PlanFault}

def faultOf : Except ε α → List ε
  | .error fault => [fault]
  | .ok _ => []

/-- A step and those after it fail with the first of their faults. -/
theorem bind_eq_error_iff {x : Except ε α} {next : α → Except ε β} {rest : List ε} {fault : ε}
    (later : ∀ a, next a = .error fault ↔ rest.head? = some fault) :
    x >>= next = .error fault ↔ (faultOf x ++ rest).head? = some fault := by
  cases x with
  | error first => simp [faultOf, bind, Except.bind]
  | ok a => exact later a

theorem mem_faultOf_readNonBlank {text : Option String} {parse : String → Option α}
    {what : String → PlanFault} :
    fault ∈ faultOf (readNonBlank text parse what) ↔
      ∃ t, text.bind Text.nonBlank = some t ∧ parse t = none ∧ fault = what t := by
  unfold readNonBlank
  cases text.bind Text.nonBlank with
  | none => simp [faultOf]
  | some t => cases read : parse t <;> simp [faultOf, read]

theorem mem_faultOf_iterations {p : Policy} :
    fault ∈ faultOf (Iterations.resolve d p) ↔
      ∃ text, d.foreach = none ∧ d.repeats = some text ∧
        ¬ Numeral.Unsigned64 (Text.trim text).toList ∧ fault = .badCount text := by
  unfold Iterations.resolve
  cases d.foreach with
  | some values => simp [faultOf]
  | none =>
    cases d.repeats with
    | none => simp [faultOf]
    | some text =>
      have numeral := Numeral.unsigned64?_eq_none_iff (s := Text.trim text)
      cases read : Numeral.unsigned64? (Text.trim text) with
      | none => simp [faultOf, read, numeral.mp read]
      | some count =>
        have isNumeral : Numeral.Unsigned64 (Text.trim text).toList := by
          refine Classical.byContradiction fun noNumeral => ?_
          simp [numeral.mpr noNumeral] at read
        simp [faultOf, read, isNumeral]

/-- The count is wrong or right whatever the policy is. -/
theorem faultOf_iterations (p q : Policy) :
    faultOf (Iterations.resolve d p) = faultOf (Iterations.resolve d q) := by
  unfold Iterations.resolve
  split
  · rfl
  · split <;> rfl
  · rfl

namespace Descriptor

/-- All that is wrong with an action, in the order in which it is looked for. -/
def faults (d : Descriptor) : List PlanFault :=
  faultOf (readNonBlank d.repeatUntil FailureClass.ofName? .unknownUntil) ++
  (faultOf (readNonBlank d.ignore FailureClass.ofName? .unknownIgnored) ++
  (faultOf (Iterations.resolve d ⟨none, none⟩) ++
  (faultOf (readNonBlank d.postponeUntil TimeOfDay.parse? .badTime) ++
  faultOf (readNonBlank d.repeatEvery Interval.parse? .badInterval))))

theorem mem_faults : fault ∈ d.faults ↔ d.Wrong fault := by
  simp only [faults, List.mem_append, mem_faultOf_readNonBlank, mem_faultOf_iterations]
  constructor
  · rintro (⟨t, given, unread, rfl⟩ | ⟨t, given, unread, rfl⟩ | ⟨t, noValues, given, unread, rfl⟩ |
      ⟨t, given, unread, rfl⟩ | ⟨t, given, unread, rfl⟩)
    · exact .unknownUntil given unread
    · exact .unknownIgnored given unread
    · exact .badCount noValues given unread
    · exact .badTime given unread
    · exact .badInterval given unread
  · intro wrong
    cases wrong with
    | unknownUntil given unread => exact .inl ⟨_, given, unread, rfl⟩
    | unknownIgnored given unread => exact .inr (.inl ⟨_, given, unread, rfl⟩)
    | badCount noValues given unread =>
      exact .inr (.inr (.inl ⟨_, noValues, given, unread, rfl⟩))
    | badTime given unread => exact .inr (.inr (.inr (.inl ⟨_, given, unread, rfl⟩)))
    | badInterval given unread => exact .inr (.inr (.inr (.inr ⟨_, given, unread, rfl⟩)))

theorem places_faultOf {x : Except PlanFault α} {place : Nat}
    (own : ∀ fault ∈ faultOf x, fault.place = place) :
    ((faultOf x).map PlanFault.place).Sublist [place] := by
  cases x with
  | ok _ => simp [faultOf]
  | error first => simp [faultOf, own first List.mem_cons_self]

theorem faults_ordered (d : Descriptor) : (d.faults.map PlanFault.place).Pairwise (· < ·) := by
  have each : ∀ (text : Option String) {α : Type} (parse : String → Option α)
      (what : String → PlanFault) (place : Nat), (∀ t, (what t).place = place) →
      ((faultOf (readNonBlank text parse what)).map PlanFault.place).Sublist [place] := by
    intro text α parse what place own
    refine places_faultOf fun fault member => ?_
    obtain ⟨t, -, -, rfl⟩ := mem_faultOf_readNonBlank.mp member
    exact own t
  have count : ((faultOf (Iterations.resolve d ⟨none, none⟩)).map PlanFault.place).Sublist [2] := by
    refine places_faultOf fun fault member => ?_
    obtain ⟨t, -, -, -, rfl⟩ := mem_faultOf_iterations.mp member
    rfl
  have places : (d.faults.map PlanFault.place).Sublist [0, 1, 2, 3, 4] := by
    simp only [faults, List.map_append]
    exact (each _ _ _ 0 fun _ => rfl).append ((each _ _ _ 1 fun _ => rfl).append
      (count.append ((each _ _ _ 3 fun _ => rfl).append (each _ _ _ 4 fun _ => rfl))))
  exact List.Pairwise.sublist places (by decide)

end Descriptor

/-- A plan fails with the first of its faults. -/
theorem Plan.resolve_eq_error_iff : Plan.resolve d = .error fault ↔ d.faults.head? = some fault := by
  simp only [Plan.resolve, Policy.resolve, bind_assoc, pure_bind, Descriptor.faults]
  refine bind_eq_error_iff fun repeatUntil => bind_eq_error_iff fun ignore => ?_
  rw [faultOf_iterations _ ⟨repeatUntil, ignore⟩]
  refine bind_eq_error_iff fun iterations => bind_eq_error_iff fun postponeUntil => ?_
  rw [← List.append_nil (faultOf (readNonBlank d.repeatEvery _ _))]
  exact bind_eq_error_iff fun every => by simp [pure, Except.pure]

/-- Of elements at increasing places, the one at the front has the least. -/
theorem head?_eq_some_iff_least {α : Type} {place : α → Nat} {l : List α} {first : α}
    (ordered : (l.map place).Pairwise (· < ·)) :
    l.head? = some first ↔ first ∈ l ∧ ∀ other ∈ l, place first ≤ place other := by
  cases l with
  | nil => simp
  | cons a rest =>
    simp only [List.map_cons, List.pairwise_cons, List.mem_map, forall_exists_index, and_imp,
      forall_apply_eq_imp_iff₂] at ordered
    constructor
    · rintro ⟨⟩
      refine ⟨List.mem_cons_self, fun other member => ?_⟩
      rcases List.mem_cons.mp member with rfl | member
      · exact Nat.le_refl _
      · exact Nat.le_of_lt (ordered.1 other member)
    · rintro ⟨member, least⟩
      rcases List.mem_cons.mp member with rfl | member
      · rfl
      · exact absurd (least a List.mem_cons_self) (Nat.not_le.mpr (ordered.1 first member))

end Faults

section Misplanned

open Course

def World.Written (w w' : World) : Prop :=
  w' = { w with files := w'.files, text := w'.text, console := w'.console }

theorem World.Written.trans {w w₁ w₂ : World} (first : w.Written w₁) (second : w₁.Written w₂) :
    w.Written w₂ := by
  unfold Written at first second ⊢
  rw [second, first]

theorem World.written_write (w : World) (sink : Sink) (s : String) : w.Written (w.write sink s) := by
  cases sink <;> rfl

namespace Outlet

variable {d : Descriptor} {caller : Sink} {frame opened : Frame} {w w₁ : World} {outlet : Outlet}
  {told : List (Event × World)}

/-- How an action gets its output: what is told, the outlet, and the frame and the world once that
is open. -/
inductive Opens (d : Descriptor) (caller : Sink) (frame : Frame) (w : World) :
    List (Event × World) → Outlet → Frame → World → Prop
  | caller (noFile : d.outputPath? = none) (noName : d.assignName? = none) :
      Opens d caller frame w [] .caller frame w
  | capture {name} (noFile : d.outputPath? = none) (named : d.assignName? = some name) :
      Opens d caller frame w [] (.capture name) frame w
  | again {path} (named : d.outputPath? = some path) (open_ : path ∈ frame.opened) :
      Opens d caller frame w (notice d caller w) (.file path) frame (noticed d caller w)
  | anew {path files} (named : d.outputPath? = some path) (closed : path ∉ frame.opened)
      (appends : (noticed d caller w).files.openAppend path = .ok files) :
      Opens d caller frame w (notice d caller w) (.file path)
        { frame with opened := frame.opened ++ [path] } { noticed d caller w with files }

/-- An output file that is open or can be opened gives an action its output. -/
theorem exists_opens (caller : Sink)
    (openable : ∀ path, d.outputPath? = some path →
      path ∈ frame.opened ∨ ∃ files, w.files.openAppend path = .ok files) :
    ∃ told outlet opened w₁, Opens d caller frame w told outlet opened w₁ := by
  cases named : d.outputPath? with
  | none =>
    cases assigned : d.assignName? with
    | none => exact ⟨_, _, _, _, .caller named assigned⟩
    | some name => exact ⟨_, _, _, _, .capture named assigned⟩
  | some path =>
    by_cases open_ : path ∈ frame.opened
    · exact ⟨_, _, _, _, .again named open_⟩
    · obtain ⟨files, appends⟩ := (openable path named).resolve_left open_
      have still : ∃ files, (noticed d caller w).files.openAppend path = .ok files := by
        unfold noticed
        split
        · cases caller with
          | text | console => exact ⟨files, appends⟩
          | file other => exact FileTree.openAppend_append_ok appends
        · exact ⟨files, appends⟩
      obtain ⟨files, appends⟩ := still
      exact ⟨_, _, _, _, .anew named open_ appends⟩

theorem Opens.resolve_eq (opens : Opens d caller frame w told outlet opened w₁) :
    resolve d caller frame w = after told (.done (some outlet, opened) w₁) := by
  cases opens with
  | caller noFile noName => exact resolve_caller noFile noName
  | capture noFile named => simp only [resolve, noFile, named, after_nil]
  | again named open_ =>
    rw [resolve_file named, openFile, if_pos (List.contains_iff_mem.mpr open_)]
  | anew named closed appends =>
    rw [resolve_file named, openFile, if_neg (mt List.contains_iff_mem.mp closed), appends]
    rfl

theorem written_noticed (d : Descriptor) (caller : Sink) (w : World) :
    w.Written (noticed d caller w) := by
  unfold noticed
  split
  · exact w.written_write ..
  · rfl

theorem Opens.written (opens : Opens d caller frame w told outlet opened w₁) : w.Written w₁ := by
  cases opens with
  | caller | capture => rfl
  | again => exact written_noticed ..
  | anew => exact (written_noticed d caller w).trans rfl

theorem Opens.frame_eq (opens : Opens d caller frame w told outlet opened w₁) :
    opened = { frame with opened := opened.opened } := by
  cases opens <;> rfl

/-- The world with a line of an action that fails: what is captured does not last. -/
def withLine (outlet : Outlet) (caller : Sink) (w : World) (line : String) : World :=
  if outlet.captures then w else w.writeLine (outlet.sink caller) line

theorem written_withLine (outlet : Outlet) (caller : Sink) (w : World) (line : String) :
    w.Written (outlet.withLine caller w line) := by
  unfold withLine
  split
  · rfl
  · exact w.written_write ..

end Outlet

/-- Whatever its outlet is, an action without a plan tells the fault there. -/
theorem Action.invokeThrough_misplanned {perform : Performer} {e : Engine} {call : Call}
    {frame : Frame} {w : World} {d : Descriptor} {fault : PlanFault} {outlet : Outlet}
    (misplanned : Plan.resolve d = .error fault) :
    invokeThrough perform e call d outlet frame w =
      after [(⟨[.action ⟨d, outlet⟩], .wrote (outlet.sink call.sink) (fault.message d.name ++ "\n")⟩,
          outlet.withLine call.sink w (fault.message d.name))]
        (.done (.ok false, frame) (outlet.withLine call.sink w (fault.message d.name))) := by
  have direct : ∀ sink w, carryOut perform e { call with sink } d frame w =
      after [(⟨[], .wrote sink (fault.message d.name ++ "\n")⟩,
          World.writeLine w sink (fault.message d.name))]
        (.done (.ok false, frame) (World.writeLine w sink (fault.message d.name))) := by
    intro sink w
    simp only [carryOut, misplanned, World.sayLine_eq, Course.map, bind_after, bind_done]
  cases outlet with
  | caller | file _ =>
    simp only [invokeThrough, through, direct, under_after, under, bind_after, bind_done]
    rfl
  | capture name =>
    simp only [invokeThrough, through, capturing_eq, collecting, direct, underText_after, underText,
      Course.map, under_after, under, bind_after, bind_done]
    rfl

def misplanned : ControlFile :=
  .ofList [("a", "stop"), ("a.repeat", "many"), ("a.repeatEvery", "often"), ("a.outputFile", "g"),
    ("a.assign", "x")]

end Misplanned

end Runbook
