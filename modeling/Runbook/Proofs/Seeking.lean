import Mathlib.Data.List.Nodup
import Mathlib.Data.List.Perm.Subperm
import Mathlib.Data.Nat.Find
import Mathlib.Tactic.Choose
import Runbook.Proofs.Keeping
import Runbook.Proofs.Lacking
/-! The parameters of an action are sought from the first on, with nothing to end the search but
the first that is missing. There is such a one, as each that is found takes an entry of its own. -/
namespace Runbook

namespace ControlFile

variable {control : ControlFile} {action : String} {vars : Variables} {given : List String}

/-- The name under which a parameter is sought. The index has 32 bits and may wrap around. -/
def soughtName (action : String) (index : Int32) : String :=
  action ++ ".param." ++ toString index.toInt

/-- What is found from an index on, as it is written, with the number of look-ups. Each entry
that is found leads to one more of them. -/
inductive Seeks (control : ControlFile) (action : String) : Int32 → List String → Nat → Prop
  | missing {index} (absent : control.get? (soughtName action index) = none) :
      Seeks control action index [] 1
  | found {index raw rest looks} (entry : control.get? (soughtName action index) = some raw)
      (later : Seeks control action (index + 1) rest looks) :
      Seeks control action index (raw :: rest) (looks + 1)

theorem Seeks.unique {index : Int32} {rest rest' : List String} {looks looks' : Nat}
    (one : Seeks control action index rest looks)
    (other : Seeks control action index rest' looks') : rest' = rest ∧ looks' = looks := by
  induction one generalizing rest' looks' with
  | missing absent =>
    cases other with
    | missing => exact ⟨rfl, rfl⟩
    | found entry => simp [absent] at entry
  | found entry _ ih =>
    cases other with
    | missing absent => simp [entry] at absent
    | found entry' later =>
      obtain ⟨rfl, rfl⟩ := ih later
      cases entry'.symm.trans entry
      exact ⟨rfl, rfl⟩

theorem soughtName_ofNat {index : Nat} (few : index < twoTo 31) :
    soughtName action (.ofNat index) = parameterName action index := by
  rw [soughtName, Int32.toInt_ofNat_of_lt few]
  rfl

theorem soughtName_injective {i j : Int32} (same : soughtName action i = soughtName action j) :
    i = j := by
  have digits : Numeral.decimal i.toInt = Numeral.decimal j.toInt := by
    simpa [soughtName, ← Numeral.toList_toString] using congrArg String.toList same
  have back : ∀ k : Int32, Numeral.integer (Numeral.decimal k.toInt) = .ok k.toInt := fun k =>
    have wide : (twoTo 63 : Int) = 9223372036854775808 := rfl
    have lower := k.le_toInt
    have upper := k.toInt_lt
    Numeral.integer_decimal (by omega) (by omega)
  have values := (back i).symm.trans ((congrArg Numeral.integer digits).trans (back j))
  exact Int32.toInt_inj.mp (Except.ok.inj values)

/-- Names that all have entries are no more than the entries. -/
theorem length_le_size (control : ControlFile) {names : List String} (distinct : names.Nodup)
    (present : ∀ name ∈ names, control.get? name ≠ none) : names.length ≤ control.size := by
  have keys : names ⊆ control.keys := fun name member =>
    have ⟨_, entry⟩ := Option.ne_none_iff_exists'.mp (present name member)
    Table.mem_keys_of_get?_eq_some entry
  calc names.length ≤ control.keys.length := (List.subperm_of_subset distinct keys).length_le
    _ = control.size := List.length_map ..

/-- What the entries of the parameters hold, up to a gap. -/
structure UpToGap (control : ControlFile) (action : String) (given : List String) : Prop where
  entries : ∀ i < given.length, control.get? (parameterName action (i + 1)) = given[i]?
  gap : control.get? (parameterName action (given.length + 1)) = none

namespace UpToGap

theorem present (upTo : UpToGap control action given) {i : Nat} (lt : i < given.length) :
    control.get? (parameterName action (i + 1)) ≠ none := by
  rw [upTo.entries i lt, List.getElem?_eq_getElem lt]
  exact Option.some_ne_none _

theorem nodup_parameterNames (n : Nat) :
    ((List.range n).map fun i => parameterName action (i + 1)).Nodup :=
  List.Nodup.map (fun _ _ same => Nat.succ.inj (parameterName_injective same)) List.nodup_range

theorem length_le (upTo : UpToGap control action given) : given.length ≤ control.size := by
  have le := length_le_size control (nodup_parameterNames given.length) (by
    intro name member
    obtain ⟨i, lt, rfl⟩ := List.mem_map.mp member
    exact upTo.present (List.mem_range.mp lt))
  simpa using le

end UpToGap

/-- The parameters do not go on for ever. -/
theorem exists_upToGap (control : ControlFile) (action : String) :
    ∃ given, UpToGap control action given := by
  have ends : ∃ n, control.get? (parameterName action (n + 1)) = none := by
    by_contra endless
    push Not at endless
    have le := length_le_size control (UpToGap.nodup_parameterNames (control.size + 1)) (by
      intro name member
      obtain ⟨i, _, rfl⟩ := List.mem_map.mp member
      exact endless i)
    simp only [List.length_map, List.length_range] at le
    exact absurd le (Nat.not_succ_le_self _)
  have before : ∀ i < Nat.find ends, ∃ raw, control.get? (parameterName action (i + 1)) = some raw :=
    fun i lt => Option.ne_none_iff_exists'.mp (Nat.find_min ends lt)
  choose! raw entry using before
  refine ⟨(List.range (Nat.find ends)).map raw, ⟨fun i lt => ?_, ?_⟩⟩
  · rw [List.length_map, List.length_range] at lt
    rw [entry i lt]
    simp [lt]
  · simpa using Nat.find_spec ends

namespace UpToGap

theorem isSome_iff (upTo : UpToGap control action given) (m : Nat) :
    (∀ i, 1 ≤ i → i ≤ m → (control.get? (parameterName action i)).isSome) ↔ m ≤ given.length := by
  constructor
  · intro all
    by_contra beyond
    have next := all (given.length + 1) (by omega) (by omega)
    simp [upTo.gap] at next
  · intro le i first last
    obtain ⟨i, rfl⟩ := Nat.exists_eq_succ_of_ne_zero (Nat.ne_zero_of_lt first)
    exact Option.isSome_iff_ne_none.mpr (upTo.present (Nat.lt_of_lt_of_le last le))

/-- Even the name after the last index of 32 bits is missing: the entries are fewer. -/
theorem gap_soughtName (upTo : UpToGap control action given) (few : control.size < twoTo 31) :
    control.get? (soughtName action (.ofNat (given.length + 1))) = none := by
  have le := upTo.length_le
  by_cases within : given.length + 1 < twoTo 31
  · rw [soughtName_ofNat within, upTo.gap]
  by_contra present
  have distinct : ((List.range (given.length + 1)).map fun i =>
      soughtName action (.ofNat (i + 1))).Nodup := by
    refine List.Nodup.map_on (fun i below j below' same => ?_) List.nodup_range
    have bits := congrArg (fun index => index.toBitVec.toNat) (soughtName_injective same)
    simp only [Int32.toBitVec_ofNat', BitVec.toNat_ofNat] at bits
    have wide : twoTo 31 = 2147483648 := rfl
    have := List.mem_range.mp below
    have := List.mem_range.mp below'
    omega
  have count := length_le_size control distinct (by
    intro name member
    obtain ⟨i, lt, rfl⟩ := List.mem_map.mp member
    rcases Nat.lt_succ_iff_lt_or_eq.mp (List.mem_range.mp lt) with lt | rfl
    · rw [soughtName_ofNat (by omega)]
      exact upTo.present lt
    · exact present)
  simp only [List.length_map, List.length_range] at count
  omega

/-- Entries from an index on are, behind the first, entries from the next index on. -/
theorem entries_tail {raw : String} {rest : List String} {index : Nat}
    (entries : ∀ i < (raw :: rest).length,
      control.get? (parameterName action (index + i)) = (raw :: rest)[i]?) :
    ∀ i < rest.length, control.get? (parameterName action (index + 1 + i)) = rest[i]? := by
  intro i lt
  have later := entries (i + 1) (by simpa using lt)
  rwa [← Nat.add_assoc, Nat.add_right_comm] at later

/-- The search goes through the same parameters, from each of them on. -/
theorem seeks {control : ControlFile} {action : String} {rest : List String} (index : Nat)
    (entries : ∀ i < rest.length, control.get? (parameterName action (index + i)) = rest[i]?)
    (within : index + rest.length ≤ twoTo 31)
    (gap : control.get? (soughtName action (.ofNat (index + rest.length))) = none) :
    Seeks control action (.ofNat index) rest (rest.length + 1) := by
  induction rest generalizing index with
  | nil => exact .missing gap
  | cons raw rest ih =>
    rw [List.length_cons] at within gap
    have entry : control.get? (soughtName action (.ofNat index)) = some raw := by
      rw [soughtName_ofNat (by omega)]
      exact entries 0 (by simp)
    have next : Int32.ofNat index + 1 = .ofNat (index + 1) := (Int32.ofNat_add index 1).symm
    have shift : index + 1 + rest.length = index + (rest.length + 1) := by omega
    refine .found entry ?_
    rw [next]
    exact ih (index + 1) (entries_tail entries) (by omega) (by rw [shift]; exact gap)

theorem parametersFrom_eq_map {rest : List String} {index count : Nat}
    (entries : ∀ i < rest.length, control.get? (parameterName action (index + i)) = rest[i]?)
    (enough : rest.length ≤ count)
    (gap : control.get? (parameterName action (index + rest.length)) = none) :
    control.parametersFrom action vars index count =
      rest.map fun raw => unquote (substitute vars raw) := by
  induction rest generalizing index count with
  | nil =>
    cases count with
    | zero => rfl
    | succ count =>
      rw [List.length_nil, Nat.add_zero] at gap
      simp [parametersFrom, gap]
  | cons raw rest ih =>
    obtain ⟨count, rfl⟩ := Nat.exists_eq_succ_of_ne_zero (Nat.ne_zero_of_lt enough)
    have entry : control.get? (parameterName action index) = some raw := entries 0 (by simp)
    have shift : index + 1 + rest.length = index + (rest.length + 1) := by omega
    have later := @ih (index + 1) count (entries_tail entries) (Nat.le_of_succ_le_succ enough)
      (by rw [shift]; exact gap)
    simp only [parametersFrom, entry, List.map_cons, later]

theorem entries_from_one (upTo : UpToGap control action given) :
    ∀ i < given.length, control.get? (parameterName action (1 + i)) = given[i]? := by
  intro i lt
  rw [Nat.add_comm]
  exact upTo.entries i lt

theorem parameters_eq (upTo : UpToGap control action given) :
    control.parameters action vars = given.map fun raw => unquote (substitute vars raw) := by
  refine parametersFrom_eq_map upTo.entries_from_one upTo.length_le ?_
  rw [Nat.add_comm]
  exact upTo.gap

theorem seeks_first (upTo : UpToGap control action given) (few : control.size < twoTo 31) :
    Seeks control action 1 given (given.length + 1) := by
  have le := upTo.length_le
  refine seeks 1 upTo.entries_from_one (by omega) ?_
  rw [Nat.add_comm]
  exact upTo.gap_soughtName few

end UpToGap

/-- The arguments are completed for three commands, each with a number of its own. -/
theorem arguments_eq_append :
    control.arguments action vars = control.parameters action vars ++
      (if control.target action vars = "objectStreamOpen" ∧
            (control.parameters action vars).length = 2 ∨
          (control.target action vars = "namedInstanceAdd" ∨
            control.target action vars = "namedInstanceReplace") ∧
              (control.parameters action vars).length = 1
        then [action] else []) := by
  simp only [arguments, selfNaming, List.contains_eq_mem, List.mem_cons, Prod.mk.injEq,
    List.not_mem_nil, or_false, decide_eq_true_eq, or_and_right]
  split <;> simp

def words (control : ControlFile) (action : String) (vars : Variables) : List String :=
  control.target action vars :: control.arguments action vars

end ControlFile

namespace Action

def dispatchWords (perform : Performer) (e : Engine) (call : Call) : List String → Body
  | [] => fun _ _ => .stuck
  | target :: args => fun frame w =>
    if Text.hasBlank target then block e.run call (Text.words target) frame w
    else
      match w.command? target with
      | some c => (command perform e c args call.sink w).map fun answer => (answer, frame)
      | none =>
        if target ≠ call.action then e.run { call with action := target } frame w
        else (w.sayLine call.sink (notFound call.action)).map fun _ => (.ok false, frame)

theorem dispatch_eq_dispatchWords (perform : Performer) (e : Engine) (call : Call) (frame : Frame)
    (w : World) :
    dispatch perform e call frame w =
      dispatchWords perform e call (frame.control.words call.action frame.vars) frame w := rfl

end Action

namespace ControlFile

/-- The parameters of an action are those up to the first that is missing. No more names are
looked up than there are entries, and one. The words that come of them are never none, so that
there is always something to run. -/
theorem words_up_to_gap (control : ControlFile) (action : String) (vars : Variables)
    (few : control.size < twoTo 31) :
    ∃ given : List String,
      (∀ found looks, Seeks control action 1 found looks ↔
        found = given ∧ looks = given.length + 1) ∧
      given.length + 1 ≤ control.keys.length + 1 ∧
      (∀ i, 1 ≤ i → i ≤ given.length →
        control.get? (parameterName action i) = given[i - 1]?) ∧
      (∀ m, (∀ i, 1 ≤ i → i ≤ m → (control.get? (parameterName action i)).isSome) ↔
        m ≤ given.length) ∧
      control.words action vars =
        control.target action vars :: (given.map fun raw => unquote (substitute vars raw)) ++
          (if control.target action vars = "objectStreamOpen" ∧ given.length = 2 ∨
              (control.target action vars = "namedInstanceAdd" ∨
                control.target action vars = "namedInstanceReplace") ∧ given.length = 1
            then [action] else []) ∧
      (∃ first rest, control.words action vars = first :: rest ∧
        ∀ perform e sink throws opened w,
          Action.dispatch perform e ⟨action, sink, throws⟩ ⟨control, vars, opened⟩ w =
            Action.dispatchWords perform e ⟨action, sink, throws⟩ (first :: rest)
              ⟨control, vars, opened⟩ w) := by
  obtain ⟨given, upTo⟩ := exists_upToGap control action
  have sought := upTo.seeks_first few
  have count : control.keys.length = control.size := List.length_map ..
  refine ⟨given, fun found looks => ⟨sought.unique, ?_⟩, ?_, fun i first last => ?_,
    upTo.isSome_iff, ?_, _, _, rfl, ?_⟩
  · rintro ⟨rfl, rfl⟩
    exact sought
  · rw [count]
    exact Nat.succ_le_succ upTo.length_le
  · obtain ⟨i, rfl⟩ := Nat.exists_eq_succ_of_ne_zero (Nat.ne_zero_of_lt first)
    exact upTo.entries i last
  · rw [words, arguments_eq_append, upTo.parameters_eq, List.length_map, List.cons_append]
  · intro perform e sink throws opened w
    exact Action.dispatch_eq_dispatchWords perform e _ _ w

theorem words_up_to_gap_stream :
    let control : ControlFile := .ofList [("read.param.4", "lost"), ("read.param.2", "two"),
      ("read", "objectStreamOpen"), ("read.param.1", "\"one\"")]
    control.size < twoTo 31 ∧
      (∃ given, Seeks control "read" 1 given 3) ∧
      control.words "read" .empty = ["objectStreamOpen", "one", "two", "read"] := by
  intro control
  have few : control.size < twoTo 31 := by decide
  obtain ⟨given, sought, -, -, stretch, -⟩ := words_up_to_gap control "read" .empty few
  have two : 2 ≤ given.length := (stretch 2).mp fun i first last => by
    obtain rfl | rfl : i = 1 ∨ i = 2 := by omega
    all_goals decide
  have notThree : ¬ 3 ≤ given.length := fun three =>
    absurd ((stretch 3).mpr three 3 (by omega) (by omega)) (by decide)
  exact ⟨few, ⟨given, (sought given 3).mpr ⟨rfl, by omega⟩⟩, by decide +kernel⟩

end ControlFile

end Runbook
