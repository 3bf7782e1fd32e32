import Mathlib.Data.List.Forall2
import Mathlib.Data.List.Induction
import Runbook.CommandLine.Invocation
import Runbook.Proofs.ControlText
import Runbook.Proofs.Decimals
/-! Arguments of the program in their roles. After the port the assignments and the other arguments
are read as two lists, so that only the order within each of them counts. -/
namespace Runbook

namespace Variables

variable {text : String} {e : String × String} {vars : Variables}

def Assigns (text : String) : Prop := '=' ∈ text.toList ∧ text.toList.head? ≠ some '='

instance : DecidablePred Assigns := fun _ => inferInstanceAs (Decidable (_ ∧ _))

/-- The first equals sign of a text stands between a name and a value, and there is a name. -/
structure Divides (text : String) (e : String × String) : Prop where
  chars : text.toList = e.1.toList ++ '=' :: e.2.toList
  first : '=' ∉ e.1.toList
  named : e.1.toList ≠ []

theorem Assigns.divides (h : Assigns text) : ∃ e, Divides text e := by
  obtain ⟨inside, front⟩ := h
  obtain ⟨name, value, chars, first⟩ := List.eq_append_cons_of_mem inside
  refine ⟨(String.ofList name, String.ofList value), ?_, ?_, ?_⟩
  · simpa using chars
  · simpa using first
  · intro empty
    rw [String.toList_ofList] at empty
    rw [chars, empty] at front
    exact front rfl

theorem assignment?_of_divides (h : Divides text e) : assignment? text = some e := by
  have other : ∀ c ∈ e.1.toList, decide (c ≠ '=') = true := by
    intro c member
    rw [decide_eq_true_eq]
    rintro rfl
    exact h.first member
  have stop : Span.Stops (fun c => decide (c ≠ '=')) ('=' :: e.2.toList) := by simp
  simp only [assignment?, h.chars, Span.takeWhile_append other stop,
    Span.dropWhile_append other stop, List.isEmpty_iff, h.named, if_false, String.ofList_toList]

theorem assign?_of_divides (h : Divides text e) : assign? vars text = some (vars.set e.1 e.2) := by
  rw [assign?, assignment?_of_divides h, Option.map_some]

/-- There is one way to divide a text. -/
theorem rightUnique_divides : Relator.RightUnique Divides := by
  intro text e other h h'
  have same := (assignment?_of_divides h).symm.trans (assignment?_of_divides h')
  exact Option.some.inj same

theorem assign?_of_not_assigns (h : ¬ Assigns text) : assign? vars text = none := by
  rw [assign?, Option.map_eq_none_iff]
  cases chars : text.toList with
  | nil => simp [assignment?, chars]
  | cons c rest =>
    by_cases front : c = '='
    · simp [assignment?, chars, front]
    · have free : '=' ∉ c :: rest := by
        intro inside
        apply h
        rw [Assigns, chars]
        exact ⟨inside, by simpa using front⟩
      have gone : (c :: rest).dropWhile (fun c => decide (c ≠ '=')) = [] := by
        rw [List.dropWhile_eq_nil_iff]
        intro d member
        rw [decide_eq_true_eq]
        rintro rfl
        exact free member
      simp only [assignment?, chars, gone]

end Variables

open Variables

/-- Both lists put together, each in its order. -/
inductive Merges {α : Type} : List α → List α → List α → Prop
  | nil : Merges [] [] []
  | left {x : α} {xs ys zs : List α} : Merges xs ys zs → Merges (x :: xs) ys (x :: zs)
  | right {y : α} {xs ys zs : List α} : Merges xs ys zs → Merges xs (y :: ys) (y :: zs)

/-- Two lists are found again in what they are put together to, if a property tells them apart. -/
theorem Merges.filter {α : Type} {p : α → Prop} [DecidablePred p] {xs ys zs : List α}
    (h : Merges xs ys zs) (each : ∀ x ∈ xs, p x) (other : ∀ y ∈ ys, ¬ p y) :
    zs.filter p = xs ∧ zs.filter (fun z => ¬ p z) = ys := by
  induction h with
  | nil => exact ⟨rfl, rfl⟩
  | @left x xs ys zs _ ih =>
    have here := each x (by simp)
    obtain ⟨lefts, rights⟩ := ih (fun z member => each z (by simp [member])) other
    exact ⟨by simp [here, lefts], by simpa [here] using rights⟩
  | @right y xs ys zs _ ih =>
    have here := other y (by simp)
    obtain ⟨lefts, rights⟩ := ih each fun z member => other z (by simp [member])
    exact ⟨by simpa [here] using lefts, by simpa [here] using rights⟩

namespace Invocation

variable {port : Option Nat} {assigned : List (String × String)} {others : List String}
  {arg : String} {e : String × String}

def composed (port : Option Nat) (assigned : List (String × String)) (others : List String) :
    Invocation where
  port := port
  controlFile := others.head?
  action := if 2 ≤ others.length then others.getLast? else none
  vars := .ofList assigned

theorem add_assignment (h : Divides arg e) :
    (composed port assigned others).add arg = composed port (assigned ++ [e]) others := by
  have assigns : assign? (.ofList assigned) arg = some (.ofList (assigned ++ [e])) := by
    rw [assign?_of_divides h, Table.ofList_concat]
  simp only [add, composed, assigns]

theorem add_other (h : ¬ Assigns arg) :
    (composed port assigned others).add arg = composed port assigned (others ++ [arg]) := by
  have assigns : assign? (.ofList assigned) arg = none := assign?_of_not_assigns h
  cases others with
  | nil => simp [add, composed, assigns]
  | cons first rest =>
    have last : (first :: (rest ++ [arg])).getLast? = some arg := by
      rw [← List.cons_append, List.getLast?_concat]
    simp [add, composed, assigns, last]

/-- Arguments after the port, whatever their order. -/
theorem foldl_add (port : Option Nat) (args : List String) :
    ∃ assigned, List.Forall₂ Divides (args.filter Assigns) assigned ∧
      args.foldl add { empty with port } =
        composed port assigned (args.filter (¬ Assigns ·)) := by
  induction args using List.reverseRecOn with
  | nil => exact ⟨[], .nil, rfl⟩
  | append_singleton args arg ih =>
    obtain ⟨assigned, divided, folded⟩ := ih
    rw [List.foldl_append, List.foldl_cons, List.foldl_nil, folded, List.filter_append,
      List.filter_append]
    by_cases assigns : Assigns arg
    · obtain ⟨e, divides⟩ := assigns.divides
      refine ⟨assigned ++ [e], ?_, ?_⟩
      · simpa [assigns] using List.rel_append divided (.cons divides .nil)
      · simp [add_assignment divides, assigns]
    · exact ⟨assigned, by simpa [assigns] using divided, by simp [add_other assigns, assigns]⟩

/-- The same assignments and the same others in another mixture come to the same. -/
theorem foldl_add_merges (port : Option Nat) {assignments others xs ys : List String}
    (each : ∀ arg ∈ assignments, Assigns arg) (other : ∀ arg ∈ others, ¬ Assigns arg)
    (mixed : Merges assignments others xs) (mixed' : Merges assignments others ys) :
    xs.foldl add { empty with port } = ys.foldl add { empty with port } := by
  obtain ⟨assigned, divided, folded⟩ := foldl_add port xs
  obtain ⟨assigned', divided', folded'⟩ := foldl_add port ys
  obtain ⟨lefts, rights⟩ := mixed.filter each other
  obtain ⟨lefts', rights'⟩ := mixed'.filter each other
  rw [lefts] at divided
  rw [lefts'] at divided'
  rw [folded, folded', rights, rights', rightUnique_divides.forall₂ divided divided']

def Numeric (arg : String) : Prop := arg.toList ≠ [] ∧ ∀ c ∈ arg.toList, c.isDigit = true

def value (arg : String) : Nat := Nat.ofDigitChars 10 arg.toList 0

theorem isNumeral_iff : isNumeral arg = true ↔ Numeric arg := by
  simp only [isNumeral, Numeric, Bool.and_eq_true, Bool.not_eq_true', String.isEmpty_eq_false_iff,
    List.all_eq_true, Numeral.isDigit_eq, ne_eq, String.toList_eq_nil_iff]

instance : DecidablePred Numeric := fun _ => decidable_of_iff _ isNumeral_iff

/-- What is read of the front of the arguments, and what is left of them. -/
inductive Leads : List String → Option Nat → List String → Prop
  | port {first : String} {rest : List String} (numeric : Numeric first)
      (small : value first ≤ 65535) : Leads (first :: rest) (some (value first)) rest
  | nothing {args : List String} (other : ∀ first ∈ args.head?, ¬ Numeric first) :
      Leads args none args

theorem read_numeric {first : String} {rest : List String} (numeric : Numeric first) :
    read (first :: rest) =
      if value first ≤ 65535 then .ok (rest.foldl add { empty with port := some (value first) })
      else .error .tooLarge := by
  have limit : Numeral.maxUnsigned16 = 65535 := rfl
  rw [read, if_pos (isNumeral_iff.mpr numeric), Numeral.natural_eq numeric.1 numeric.2, limit,
    value]
  split <;> rfl

theorem read_other {args : List String} (h : ∀ first ∈ args.head?, ¬ Numeric first) :
    read args = .ok (args.foldl add empty) := by
  cases args with
  | nil => rfl
  | cons first rest =>
    rw [read, if_neg]
    rw [isNumeral_iff]
    exact h first rfl

/-- The arguments begin with a port, with too large a number, or with neither. -/
theorem leads_cases (args : List String) :
    (∃ first rest, args = first :: rest ∧ Numeric first ∧ 65535 < value first) ∨
      ∃ port rest, Leads args port rest := by
  cases args with
  | nil => exact .inr ⟨_, _, .nothing (by simp)⟩
  | cons first rest =>
    by_cases numeric : Numeric first
    · by_cases small : value first ≤ 65535
      · exact .inr ⟨_, _, .port numeric small⟩
      · exact .inl ⟨first, rest, rfl, numeric, by omega⟩
    · exact .inr ⟨_, _, .nothing (by simpa using numeric)⟩

theorem Leads.read_eq {args rest : List String} (h : Leads args port rest) :
    read args = .ok (rest.foldl add { empty with port }) := by
  cases h with
  | port numeric small => rw [read_numeric numeric, if_pos small]
  | nothing other => exact read_other other

/-- Arguments are refused when they begin with too large a port, and only then. Else the port is the
number they begin with, and of the others those with an equals sign in them that is not at their
front are the assignments, carried out in order. The control file is the first of the remaining
arguments, and the action the last one after it. So it does not matter how assignments and other
arguments are mixed, if the mixture does not bring a number to the front where there is no port. -/
theorem arguments_by_role :
    (∀ args fault, read args = .error fault ↔
      fault = .tooLarge ∧
        ∃ first rest, args = first :: rest ∧ Numeric first ∧ 65535 < value first) ∧
    (∀ args i, read args = .ok i ↔
      ∃ port rest assigned, Leads args port rest ∧
        List.Forall₂ Divides (rest.filter Assigns) assigned ∧
        i = composed port assigned (rest.filter (¬ Assigns ·))) ∧
    (∀ port assigned others name, (composed port assigned others).vars.get? name =
      (assigned.reverse.find? (·.1 = name)).map Prod.snd) ∧
    (∀ front assignments others xs ys,
      ((∃ port, front = [port] ∧ Numeric port) ∨
        (front = [] ∧ ∀ args ∈ [xs, ys], ∀ first ∈ args.head?, ¬ Numeric first)) →
      (∀ arg ∈ assignments, Assigns arg) → (∀ arg ∈ others, ¬ Assigns arg) →
      Merges assignments others xs → Merges assignments others ys →
      read (front ++ xs) = read (front ++ ys)) := by
  refine ⟨?_, ?_, fun _ assigned _ name => Table.get?_ofList assigned name, ?_⟩
  · intro args fault
    rcases leads_cases args with ⟨first, rest, rfl, numeric, large⟩ | ⟨port, rest, leads⟩
    · rw [read_numeric numeric, if_neg (by omega)]
      constructor
      · rintro ⟨⟩
        exact ⟨rfl, first, rest, rfl, numeric, large⟩
      · rintro ⟨rfl, -⟩
        rfl
    · constructor
      · intro refused
        rw [leads.read_eq] at refused
        cases refused
      · rintro ⟨-, first, others, rfl, numeric, large⟩
        cases leads with
        | port _ small => omega
        | nothing other => exact absurd numeric (other first rfl)
  · intro args i
    constructor
    · intro ok
      rcases leads_cases args with ⟨first, rest, rfl, numeric, large⟩ | ⟨port, rest, leads⟩
      · rw [read_numeric numeric, if_neg (by omega)] at ok
        cases ok
      · obtain ⟨assigned, divided, folded⟩ := foldl_add port rest
        rw [leads.read_eq, folded] at ok
        cases ok
        exact ⟨port, rest, assigned, leads, divided, rfl⟩
    · rintro ⟨port, rest, assigned, leads, divided, rfl⟩
      obtain ⟨assigned', divided', folded⟩ := foldl_add port rest
      rw [leads.read_eq, folded, rightUnique_divides.forall₂ divided divided']
  · intro front assignments others xs ys fronted each other mixed mixed'
    have same := fun port => foldl_add_merges port each other mixed mixed'
    rcases fronted with ⟨port, rfl, numeric⟩ | ⟨rfl, neither⟩
    · rw [List.singleton_append, List.singleton_append, read_numeric numeric, read_numeric numeric,
        same]
    · rw [List.nil_append, List.nil_append, read_other (neither xs (by simp)),
        read_other (neither ys (by simp))]
      exact congrArg Except.ok (same none)

theorem arguments_by_role_port :
    let assignments := ["a=b=c", "a=2"]
    let others := ["=x", "", "80"]
    Numeric "0080" ∧ (∀ arg ∈ assignments, Assigns arg) ∧ (∀ arg ∈ others, ¬ Assigns arg) ∧
      Merges assignments others ["=x", "a=b=c", "", "a=2", "80"] ∧
      Merges assignments others (assignments ++ others) ∧
      read ["0080", "=x", "a=b=c", "", "a=2", "80"] =
        read (["0080"] ++ (assignments ++ others)) := by
  intro assignments others
  have port : Numeric "0080" := by decide
  have each : ∀ arg ∈ assignments, Assigns arg := by decide
  have other : ∀ arg ∈ others, ¬ Assigns arg := by decide
  have mixed : Merges assignments others ["=x", "a=b=c", "", "a=2", "80"] :=
    .right (.left (.right (.left (.right .nil))))
  have sorted : Merges assignments others (assignments ++ others) :=
    .left (.left (.right (.right (.right .nil))))
  exact ⟨port, each, other, mixed, sorted,
    arguments_by_role.2.2.2 ["0080"] assignments others _ _ (.inl ⟨"0080", rfl, port⟩) each other
      mixed sorted⟩

def SignsLater (arg : String) : Prop := '=' ∈ arg.toList.tail

instance : DecidablePred SignsLater := fun _ => inferInstanceAs (Decidable (_ ∈ _))

/-- An equals sign at the front keeps a later one from making an assignment: `=a=b` names the
control file. -/
theorem sign_in_front_is_no_assignment :
    ¬ ∀ args i, (∀ first ∈ args.head?, ¬ Numeric first) → read args = .ok i →
      i.controlFile = (args.filter (¬ SignsLater ·)).head? := by
  intro sorts
  have accepted : read ["=a=b"] = .ok ⟨none, some "=a=b", none, .empty⟩ := by
    rw [read_other (by decide), List.foldl_cons, List.foldl_nil, add,
      assign?_of_not_assigns (by decide)]
    rfl
  have named := sorts ["=a=b"] _ (by decide) accepted
  revert named
  decide

end Invocation

end Runbook
