import Runbook.Action.Plan
import Runbook.Proofs.Decimals
/-! Control files that lack the entry which assigns the output of an action. All else that is read
from them is the same. -/
namespace Runbook

namespace ControlFile

variable {control : ControlFile} {gone : Option String} {name action : String}
  {vars : Variables} {index count : Nat}

def assignEntry (action : String) : String := Modifier.assign.entryName action

theorem entryName_eq_assignEntry {m : Modifier} {a : String}
    (same : m.entryName action = assignEntry a) : m = .assign ∧ action = a := by
  have ends := congrArg (fun s => s.toList.reverse) same
  cases m <;> simp [assignEntry, Modifier.entryName, Modifier.key] at ends
  exact ⟨rfl, String.toList_inj.mp ends⟩

theorem ne_assignEntry (action : String) : action ≠ assignEntry action := by
  intro same
  have long : action.length = action.length + ".".length + "assign".length := by
    simpa [assignEntry, Modifier.entryName, Modifier.key] using congrArg String.length same
  have dot : 0 < ".".length := by decide
  omega

theorem parameterName_ne_assignEntry (action a : String) (index : Nat) :
    parameterName action index ≠ assignEntry a := by
  intro same
  have ends := congrArg (fun s => s.toList.getLast?) same
  obtain ⟨c, rest, written, _⟩ := Numeral.toDigits_eq_cons index
  have last : (Nat.toDigits 10 index).getLast? = some 'n' := by
    simpa [assignEntry, parameterName, Modifier.entryName, Modifier.key, written] using ends
  have digit := Nat.isDigit_of_mem_toDigits (by decide) (by decide) (List.mem_of_getLast? last)
  exact absurd digit (by decide)

theorem parameterName_injective {i j : Nat} (same : parameterName action i = parameterName action j) :
    i = j := by
  have digits : Nat.toDigits 10 i = Nat.toDigits 10 j := by
    simpa [parameterName] using congrArg String.toList same
  have value := congrArg (Nat.ofDigitChars 10 · 0) digits
  simpa [Nat.ofDigitChars_toDigits] using value

/-- Parameters are looked up from an index on; an entry of another name makes no difference. -/
theorem parametersFrom_erase (other : ∀ i ≥ index, parameterName action i ≠ name) :
    parametersFrom (control.erase name) action vars index count =
      control.parametersFrom action vars index count := by
  induction count generalizing index with
  | zero => rfl
  | succ count ih =>
    simp only [parametersFrom, Table.get?_erase_other _ (other index (Nat.le_refl _))]
    rw [ih fun i le => other i (Nat.le_of_succ_le le)]

theorem size_erase {raw : String} (found : control.get? name = some raw) :
    (control.erase name).size < control.size := by
  refine List.length_filter_lt_length_iff_exists.mpr ?_
  have member : ∀ entries : List (String × String), Table.find name entries = some raw →
      ∃ e ∈ entries, ¬ decide (e.1 ≠ name) = true := by
    intro entries found
    induction entries with
    | nil => simp [Table.find] at found
    | cons e rest ih =>
      by_cases own : e.1 = name
      · exact ⟨e, by simp, by simp [own]⟩
      · obtain ⟨e', member, same⟩ := ih (by simpa [Table.find, own] using found)
        exact ⟨e', by simp [member], same⟩
  exact member _ found

/-- There are no more parameters than entries, as each of them has an entry of its own. -/
theorem length_parametersFrom_le :
    (control.parametersFrom action vars index count).length ≤ control.size := by
  induction count generalizing control index with
  | zero => simp [parametersFrom]
  | succ count ih =>
    cases found : control.get? (parameterName action index) with
    | none => simp [parametersFrom, found]
    | some raw =>
      have others : ∀ i ≥ index + 1, parameterName action i ≠ parameterName action index :=
        fun i le same => by
          have := parameterName_injective same
          omega
      simp only [parametersFrom, found, List.length_cons]
      rw [← parametersFrom_erase others]
      exact Nat.lt_of_le_of_lt ih (size_erase found)

/-- Fewer look-ups find the first ones of the parameters. -/
theorem parametersFrom_eq_take (more : Nat) :
    control.parametersFrom action vars index count =
      (control.parametersFrom action vars index (count + more)).take count := by
  induction count generalizing index with
  | zero => simp [parametersFrom]
  | succ count ih =>
    rw [Nat.succ_add]
    simp only [parametersFrom]
    cases control.get? (parameterName action index) with
    | none => simp
    | some raw => simp [← ih]

theorem parametersFrom_eq (enough : control.size ≤ count) :
    control.parametersFrom action vars index control.size =
      control.parametersFrom action vars index count := by
  obtain ⟨more, rfl⟩ := Nat.exists_eq_add_of_le enough
  rw [parametersFrom_eq_take more, List.take_of_length_le length_parametersFrom_le]

def lacking (control : ControlFile) : Option String → ControlFile
  | some action => control.erase (assignEntry action)
  | none => control

theorem get?_lacking (other : ∀ a, gone = some a → name ≠ assignEntry a) :
    (control.lacking gone).get? name = control.get? name := by
  cases gone with
  | none => rfl
  | some a => exact Table.get?_erase_other _ (other a rfl)

theorem modifier?_lacking {m : Modifier} (other : m = .assign → gone ≠ some action) :
    (control.lacking gone).modifier? action m vars = control.modifier? action m vars := by
  rw [modifier?, modifier?, get?_lacking]
  rintro a rfl same
  obtain ⟨assigns, rfl⟩ := entryName_eq_assignEntry same
  exact other assigns rfl

theorem target_lacking (other : ∀ a, gone = some a → action ≠ assignEntry a) :
    (control.lacking gone).target action vars = control.target action vars := by
  rw [target, target, get?_lacking other]

theorem parameters_lacking :
    (control.lacking gone).parameters action vars = control.parameters action vars := by
  cases gone with
  | none => rfl
  | some a =>
    have less : (control.erase (assignEntry a)).size ≤ control.size := List.length_filter_le ..
    rw [parameters, parameters, lacking, parametersFrom_eq less]
    exact parametersFrom_erase fun i _ => parameterName_ne_assignEntry action a i

theorem arguments_lacking (other : ∀ a, gone = some a → action ≠ assignEntry a) :
    (control.lacking gone).arguments action vars = control.arguments action vars := by
  rw [arguments, arguments, parameters_lacking, target_lacking other]

end ControlFile

namespace Descriptor

variable {control : ControlFile} {gone : Option String} {action : String} {vars : Variables}

/-- An action whose own entry is not the one that is missing is read as it was. -/
theorem read_lacking (other : gone ≠ some action) :
    read (control.lacking gone) action vars = read control action vars := by
  simp only [read, ControlFile.modifier?_lacking fun _ => other]

/-- An action whose entry is missing is read as one that assigns nothing. -/
theorem read_lacking_self :
    read (control.lacking (some action)) action vars =
      { read control action vars with assign := none } := by
  have absent : (control.lacking (some action)).modifier? action .assign vars = none := by
    simp [ControlFile.modifier?, ControlFile.lacking, ControlFile.assignEntry]
  have same : ∀ m : Modifier, m ≠ .assign →
      (control.lacking (some action)).modifier? action m vars =
        control.modifier? action m vars :=
    fun m other => ControlFile.modifier?_lacking fun assigns => absurd assigns other
  simp only [read, absent, same _ (by decide : Modifier.repeats ≠ .assign),
    same _ (by decide : Modifier.foreach ≠ .assign),
    same _ (by decide : Modifier.repeatUntil ≠ .assign),
    same _ (by decide : Modifier.ignore ≠ .assign),
    same _ (by decide : Modifier.loopVariable ≠ .assign),
    same _ (by decide : Modifier.postponeUntil ≠ .assign),
    same _ (by decide : Modifier.outputFile ≠ .assign),
    same _ (by decide : Modifier.repeatEvery ≠ .assign)]

end Descriptor

end Runbook
