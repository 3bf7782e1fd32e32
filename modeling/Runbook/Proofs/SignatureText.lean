import Mathlib.Data.List.Chain
import Runbook.Proofs.Decimals
import Runbook.Proofs.Span
import Runbook.Signature.Factory
/-! Signatures as they are written. Every expression is read back from its tokens, nothing else
is read, and blanks between the tokens mean nothing. -/
namespace Runbook.Signature

open Runbook.Span

mutual

def Expression.tokens : Expression → List Token
  | .text s => [.text s]
  | .int n => [.int n]
  | .float x => [.float x]
  | .bool true => [.name "true"]
  | .bool false => [.name "false"]
  | .null => [.name "null"]
  | .name s => [.name s]
  | .call function arguments => .name function :: .opening :: argumentTokens arguments

def argumentTokens : List Expression → List Token
  | [] => [.closing]
  | [e] => e.tokens ++ [.closing]
  | e :: rest => e.tokens ++ .comma :: argumentTokens rest

end

def IsLiteral (s : String) : Prop := s = "true" ∨ s = "false" ∨ s = "null"

/-- No literal is taken for a name. -/
inductive Expression.Proper : Expression → Prop
  | text (s : String) : Proper (.text s)
  | int (n : Int64) : Proper (.int n)
  | float (x : Binary64) : Proper (.float x)
  | bool (b : Bool) : Proper (.bool b)
  | null : Proper .null
  | name {s : String} (free : ¬ IsLiteral s) : Proper (.name s)
  | call {function : String} {arguments : List Expression}
      (proper : ∀ e ∈ arguments, Proper e) : Proper (.call function arguments)

section Reading

def Reads {α : Type} {ts : List Token} (result : Parsed α ts) (a : α) (rest : List Token) :
    Prop :=
  ∃ h, result = .ok (a, ⟨rest, h⟩)

variable {ts rest : List Token} {e : Expression} {es : List Expression}

theorem ofName_eq_name {s : String} (free : ¬ IsLiteral s) : ofName s = .name s := by
  unfold ofName
  split <;> simp_all [IsLiteral]

theorem proper_ofName (s : String) : (ofName s).Proper ∧ (ofName s).tokens = [.name s] := by
  unfold ofName
  split
  · exact ⟨.bool true, rfl⟩
  · exact ⟨.bool false, rfl⟩
  · exact ⟨.null, rfl⟩
  · rename_i notTrue notFalse notNull
    refine ⟨.name ?_, rfl⟩
    rintro (rfl | rfl | rfl)
    · exact notTrue rfl
    · exact notFalse rfl
    · exact notNull rfl

/-- What an expression can begin with, and what it is then. -/
inductive Begins : List Token → Expression → List Token → Prop
  | text (s : String) (rest : List Token) : Begins (.text s :: rest) (.text s) rest
  | int (n : Int64) (rest : List Token) : Begins (.int n :: rest) (.int n) rest
  | float (x : Binary64) (rest : List Token) : Begins (.float x :: rest) (.float x) rest
  | name (s : String) {rest : List Token} (bare : rest.head? ≠ some .opening) :
      Begins (.name s :: rest) (ofName s) rest
  | call (s : String) {arguments : List Expression} {more rest : List Token}
      (inside : Reads (argumentList more) arguments rest) :
      Begins (.name s :: .opening :: more) (.call s arguments) rest

theorem reads_expression_iff : Reads (expression ts) e rest ↔ Begins ts e rest := by
  constructor
  · rintro ⟨h, read⟩
    unfold expression at read
    split at read
    · simp at read
    · obtain ⟨rfl, rfl⟩ : _ ∧ _ = rest := by simpa using read
      exact .text ..
    · obtain ⟨rfl, rfl⟩ : _ ∧ _ = rest := by simpa using read
      exact .int ..
    · obtain ⟨rfl, rfl⟩ : _ ∧ _ = rest := by simpa using read
      exact .float ..
    · split at read
      · simp at read
      · rename_i inside
        obtain ⟨rfl, rfl⟩ : _ ∧ _ = rest := by simpa using read
        exact .call _ ⟨_, inside⟩
    · rename_i bare
      obtain ⟨rfl, rfl⟩ : _ ∧ _ = rest := by simpa using read
      refine .name _ fun opening => ?_
      obtain ⟨more, rfl⟩ := List.head?_eq_some_iff.mp opening
      exact bare more rfl
    · simp at read
  · intro h
    cases h with
    | text s => exact ⟨by simp, by rw [expression]⟩
    | int n => exact ⟨by simp, by rw [expression]⟩
    | float x => exact ⟨by simp, by rw [expression]⟩
    | name s bare =>
      refine ⟨by simp, ?_⟩
      rw [expression]
      rintro more rfl
      simp at bare
    | call s inside =>
      obtain ⟨h, read⟩ := inside
      refine ⟨by simp only [List.length_cons]; omega, ?_⟩
      rw [expression, read]

/-- The arguments are over at once, or there is one of them at least. -/
theorem reads_argumentList_iff :
    Reads (argumentList ts) es rest ↔
      (ts = .closing :: rest ∧ es = []) ∨
        (ts.head? ≠ some .closing ∧ Reads (moreArguments ts) es rest) := by
  constructor
  · rintro ⟨h, read⟩
    unfold argumentList at read
    split at read
    · obtain ⟨rfl, rfl⟩ : _ ∧ _ = rest := by simpa using read
      exact .inl ⟨rfl, rfl⟩
    · simp at read
    · rename_i t more notClosing
      refine .inr ⟨fun closing => ?_, h, read⟩
      exact notClosing (by simpa using closing)
  · rintro (⟨rfl, rfl⟩ | ⟨notClosing, h, read⟩)
    · exact ⟨by simp, by rw [argumentList]⟩
    · refine ⟨h, ?_⟩
      rw [argumentList.eq_def]
      split
      · simp at notClosing
      · rw [moreArguments, expression] at read
        simp at read
      · exact read

/-- What follows an argument: the closing parenthesis, or a comma and further ones. -/
theorem reads_moreArguments_iff :
    Reads (moreArguments ts) es rest ↔
      ∃ e after, Reads (expression ts) e after ∧
        ((after = .closing :: rest ∧ es = [e]) ∨
          ∃ more others, after = .comma :: more ∧ es = e :: others ∧
            Reads (moreArguments more) others rest) := by
  constructor
  · rintro ⟨h, read⟩
    unfold moreArguments at read
    split at read
    · simp at read
    · rename_i first
      split at read
      · simp at read
      · rename_i others
        obtain ⟨rfl, rfl⟩ : _ ∧ _ = rest := by simpa using read
        exact ⟨_, _, ⟨_, first⟩, .inr ⟨_, _, rfl, rfl, _, others⟩⟩
    · rename_i first
      obtain ⟨rfl, rfl⟩ : _ ∧ _ = rest := by simpa using read
      exact ⟨_, _, ⟨_, first⟩, .inl ⟨rfl, rfl⟩⟩
    · simp at read
    · simp at read
  · rintro ⟨e, after, ⟨h, first⟩, ⟨rfl, rfl⟩ | ⟨more, others, rfl, rfl, h', read⟩⟩
    · refine ⟨by simp only [List.length_cons] at h; omega, ?_⟩
      unfold moreArguments
      simp only [first]
    · refine ⟨by simp only [List.length_cons] at h; omega, ?_⟩
      unfold moreArguments
      simp only [first, read]

theorem argumentTokens_cons (more : es ≠ []) :
    argumentTokens (e :: es) = e.tokens ++ .comma :: argumentTokens es := by
  rw [argumentTokens]
  exact more

theorem tokens_eq_cons (e : Expression) :
    ∃ t more, e.tokens = t :: more ∧ t ≠ .closing := by
  cases e with
  | bool b => cases b <;> exact ⟨_, _, rfl, by simp⟩
  | _ => exact ⟨_, _, by rw [Expression.tokens], by simp⟩

/-- What is read is what the tokens are written for. -/
theorem eq_tokens_of_reads (bound : Nat) :
    (∀ ts e rest, ts.length ≤ bound → Reads (expression ts) e rest →
      e.Proper ∧ ts = e.tokens ++ rest) ∧
    (∀ ts es rest, ts.length ≤ bound → Reads (moreArguments ts) es rest →
      es ≠ [] ∧ (∀ e ∈ es, e.Proper) ∧ ts = argumentTokens es ++ rest) := by
  -- The induction is on a bound of the length, because an argument is read from the same tokens as
  -- the list that it begins.
  induction bound with
  | zero =>
    have nothing : ∀ e rest, ¬ Reads (expression []) e rest := by
      intro e rest read
      cases reads_expression_iff.mp read
    refine ⟨fun ts e rest short read => ?_, fun ts es rest short read => ?_⟩
    · have none : ts = [] := List.eq_nil_of_length_eq_zero (Nat.le_zero.mp short)
      subst none
      exact absurd read (nothing e rest)
    · have none : ts = [] := List.eq_nil_of_length_eq_zero (Nat.le_zero.mp short)
      subst none
      obtain ⟨e, after, first, _⟩ := reads_moreArguments_iff.mp read
      exact absurd first (nothing e after)
  | succ bound ih =>
    have one : ∀ ts e rest, ts.length ≤ bound + 1 → Reads (expression ts) e rest →
        e.Proper ∧ ts = e.tokens ++ rest := by
      intro ts e rest short read
      cases reads_expression_iff.mp read with
      | text s => exact ⟨.text s, rfl⟩
      | int n => exact ⟨.int n, rfl⟩
      | float x => exact ⟨.float x, rfl⟩
      | name s bare =>
        obtain ⟨proper, written⟩ := proper_ofName s
        exact ⟨proper, by rw [written]; rfl⟩
      | @call s arguments more rest inside =>
        simp only [List.length_cons] at short
        rcases reads_argumentList_iff.mp inside with ⟨rfl, rfl⟩ | ⟨_, inside⟩
        · exact ⟨.call (by simp), by simp [Expression.tokens, argumentTokens]⟩
        · obtain ⟨_, proper, rfl⟩ := ih.2 more arguments rest (by omega) inside
          exact ⟨.call proper, by simp [Expression.tokens]⟩
    refine ⟨one, fun ts es rest short read => ?_⟩
    obtain ⟨e, after, first, ending⟩ := reads_moreArguments_iff.mp read
    obtain ⟨proper, rfl⟩ := one ts e after short first
    obtain ⟨shorter, _⟩ := first
    rcases ending with ⟨rfl, rfl⟩ | ⟨more, others, rfl, rfl, following⟩
    · exact ⟨by simp, by simpa using proper, by simp [argumentTokens]⟩
    · simp only [List.length_cons] at shorter
      obtain ⟨further, propers, rfl⟩ := ih.2 more others rest (by omega) following
      refine ⟨by simp, ?_, by simp [argumentTokens_cons further]⟩
      rintro d (_ | ⟨_, member⟩)
      · exact proper
      · exact propers d member

theorem reads_argumentTokens (given : es ≠ [])
    (each : ∀ e ∈ es, ∀ rest : List Token, rest.head? ≠ some .opening →
      Reads (expression (e.tokens ++ rest)) e rest) (rest : List Token) :
    Reads (moreArguments (argumentTokens es ++ rest)) es rest := by
  induction es with
  | nil => exact absurd rfl given
  | cons e es ih =>
    rw [reads_moreArguments_iff]
    by_cases last : es = []
    · subst last
      refine ⟨e, .closing :: rest, ?_, .inl ⟨rfl, rfl⟩⟩
      rw [argumentTokens, List.append_assoc]
      exact each e (by simp) (.closing :: rest) (by simp)
    · refine ⟨e, .comma :: (argumentTokens es ++ rest), ?_, .inr ⟨_, es, rfl, rfl, ?_⟩⟩
      · rw [argumentTokens_cons last, List.append_assoc]
        exact each e (by simp) (.comma :: (argumentTokens es ++ rest)) (by simp)
      · exact ih last fun d member => each d (by simp [member])

/-- Every proper expression is read from its tokens, whatever follows them but a call. -/
theorem reads_tokens (proper : e.Proper) (rest : List Token)
    (bare : rest.head? ≠ some .opening) : Reads (expression (e.tokens ++ rest)) e rest := by
  induction proper generalizing rest with
  | text s => exact reads_expression_iff.mpr (.text s rest)
  | int n => exact reads_expression_iff.mpr (.int n rest)
  | float x => exact reads_expression_iff.mpr (.float x rest)
  | bool b => cases b <;> exact reads_expression_iff.mpr (.name _ bare)
  | null => exact reads_expression_iff.mpr (.name "null" bare)
  | @name s free =>
    have read := reads_expression_iff.mpr (.name s bare)
    rwa [ofName_eq_name free] at read
  | @call function arguments _ ih =>
    refine reads_expression_iff.mpr (.call function (reads_argumentList_iff.mpr ?_))
    by_cases empty : arguments = []
    · subst empty
      exact .inl ⟨rfl, rfl⟩
    · refine .inr ⟨?_, reads_argumentTokens empty ih rest⟩
      obtain ⟨e, others, rfl⟩ := List.exists_cons_of_ne_nil empty
      obtain ⟨t, more, written, notClosing⟩ := tokens_eq_cons e
      cases others <;> simp [argumentTokens, written, notClosing]

theorem whole_eq_ok_iff_reads : whole ts = .ok e ↔ Reads (expression ts) e [] := by
  unfold whole
  constructor
  · intro h
    split at h
    · simp at h
    · rename_i read
      obtain rfl := Except.ok.inj h
      exact ⟨_, read⟩
    · simp at h
  · rintro ⟨h, read⟩
    rw [read]

/-- The tokens of proper expressions are read as these, and no others. -/
theorem whole_eq_ok_iff : whole ts = .ok e ↔ e.Proper ∧ ts = e.tokens := by
  rw [whole_eq_ok_iff_reads]
  constructor
  · intro read
    simpa using (eq_tokens_of_reads ts.length).1 ts e [] (Nat.le_refl _) read
  · rintro ⟨proper, rfl⟩
    have read := reads_tokens proper [] (by simp)
    rwa [List.append_nil] at read

/-- Tokens that no proper expression is written with are refused. -/
theorem whole_eq_error (other : ∀ e : Expression, e.Proper → ts ≠ e.tokens) :
    ∃ fault, whole ts = .error fault := by
  cases read : whole ts with
  | ok e =>
    obtain ⟨proper, written⟩ := whole_eq_ok_iff.mp read
    exact absurd written (other e proper)
  | error fault => exact ⟨fault, rfl⟩

theorem build_eq_error {s : String} {fault : Fault} (f : Factory) (instances : Instances)
    (objects : Objects) (spelt : Signature.tokens s.toList = .ok ts)
    (refused : whole ts = .error fault) :
    f.build instances objects s = .error (.misspelt fault) := by
  have misread : parse s = .error fault := by
    rw [parse, spelt]
    exact refused
  rw [Factory.build, misread]
  rfl

end Reading

section Spelling

def IsIdentifier : List Char → Prop
  | [] => False
  | c :: rest => isNameStart c = true ∧ ∀ d ∈ rest, isNamePart d = true

def quoteChar (c : Char) : List Char := if c = '"' ∨ c = '\\' then ['\\', c] else [c]

def Token.spelling : Token → List Char
  | name s => s.toList
  | text s => '"' :: (s.toList.flatMap quoteChar ++ ['"'])
  | int n => (toString n.toInt).toList
  | float x => (x.text Binary64.diagnostic).toList
  | opening => ['(']
  | closing => [')']
  | comma => [',']

def Token.IsMark (t : Token) : Prop := t = .opening ∨ t = .closing ∨ t = .comma

structure Blanks where
  chars : List Char
  blank : ∀ c ∈ chars, Text.isBlank c = true

def layOut (gap : Nat → Blanks) : List Token → List Char
  | [] => (gap 0).chars
  | t :: ts => (gap 0).chars ++ (t.spelling ++ layOut (fun i => gap (i + 1)) ts)

/-- The expressions whose spelling is fixed: all but those with floating-point numbers, where the
names are identifiers and none of them is a literal. -/
inductive Expression.Source : Expression → Prop
  | text (s : String) : Source (.text s)
  | int (n : Int64) : Source (.int n)
  | bool (b : Bool) : Source (.bool b)
  | null : Source .null
  | name {s : String} (identifier : IsIdentifier s.toList) (free : ¬ IsLiteral s) :
      Source (.name s)
  | call {function : String} {arguments : List Expression}
      (identifier : IsIdentifier function.toList) (sources : ∀ e ∈ arguments, Source e) :
      Source (.call function arguments)

inductive Token.Spelt : Token → Prop
  | name {s : String} (identifier : IsIdentifier s.toList) : Spelt (.name s)
  | text (s : String) : Spelt (.text s)
  | int (n : Int64) : Spelt (.int n)
  | mark {t : Token} (known : t.IsMark) : Spelt t

theorem Expression.Source.proper {e : Expression} (h : e.Source) : e.Proper := by
  induction h with
  | text s => exact .text s
  | int n => exact .int n
  | bool b => exact .bool b
  | null => exact .null
  | name _ free => exact .name free
  | call _ _ ih => exact .call ih

theorem isNamePart_of_isNameStart {c : Char} (h : isNameStart c = true) :
    isNamePart c = true := by
  simp only [isNameStart, isNamePart, Char.isAlphanum, Bool.or_eq_true] at h ⊢
  rcases h with h | h <;> simp [h]

/-- What can follow in a number can follow in a name too. -/
theorem isNamePart_of_isNumberPart {c : Char} (h : isNumberPart c = true) :
    isNamePart c = true := by
  simp only [isNumberPart, Bool.or_eq_true, beq_iff_eq] at h
  rcases h with ((digit | rfl) | rfl) | rfl
  · simp [isNamePart, Char.isAlphanum, digit]
  all_goals decide

/-- The letters are between the upper and the lower case alphabet, ends included. -/
theorem toNat_of_isAlpha {c : Char} (h : c.isAlpha = true) :
    'A'.toNat ≤ c.toNat ∧ c.toNat ≤ 'z'.toNat := by
  rcases (Bool.or_eq_true c.isUpper c.isLower).mp h with upper | lower
  · have within : 'A'.toNat ≤ c.toNat ∧ c.toNat ≤ 'Z'.toNat := of_decide_eq_true upper
    exact ⟨within.1, Nat.le_trans within.2 (by decide)⟩
  · obtain ⟨least, most⟩ := (Bool.and_eq_true _ _).mp lower
    have least : 'a'.toNat ≤ c.toNat := of_decide_eq_true least
    have most : c.toNat ≤ 'z'.toNat := of_decide_eq_true most
    exact ⟨Nat.le_trans (by decide) least, most⟩

theorem isBlank_of_isNamePart {c : Char} (h : isNamePart c = true) : Text.isBlank c = false := by
  have within : '.'.toNat ≤ c.toNat ∧ c.toNat ≤ 'z'.toNat := by
    simp only [isNamePart, Char.isAlphanum, Char.isDigit, Bool.or_eq_true, Bool.and_eq_true,
      decide_eq_true_eq, beq_iff_eq, ge_iff_le, UInt32.le_iff_toNat_le] at h
    rcases h with ((alpha | ⟨least, most⟩) | rfl) | rfl
    · exact ⟨Nat.le_trans (by decide) (toNat_of_isAlpha alpha).1, (toNat_of_isAlpha alpha).2⟩
    · exact ⟨Nat.le_trans (by decide) least, Nat.le_trans most (by decide)⟩
    · decide
    · decide
  have bounds : '.'.toNat = 46 ∧ 'z'.toNat = 122 := by decide
  simp [Text.isBlank]
  omega

theorem isDigit_of_isNameStart {c : Char} (h : isNameStart c = true) : c.isDigit = false := by
  have above : '9'.toNat < c.toNat := by
    simp only [isNameStart, Bool.or_eq_true, beq_iff_eq] at h
    rcases h with alpha | rfl
    · exact Nat.lt_of_lt_of_le (by decide) (toNat_of_isAlpha alpha).1
    · decide
  simp only [Char.isDigit, Bool.and_eq_false_imp, decide_eq_false_iff_not, UInt32.le_iff_toNat_le]
  exact fun _ => Nat.not_le.mpr above

theorem readText_quoted (s rest : List Char) :
    readText (s.flatMap quoteChar ++ '"' :: rest) = some (s, rest) := by
  induction s with
  | nil => simp [readText]
  | cons c s ih =>
    by_cases guarded : c = '"' ∨ c = '\\'
    · simp [quoteChar, guarded, readText, ih]
    · have single : quoteChar c = [c] := if_neg guarded
      rw [not_or] at guarded
      rw [List.flatMap_cons, single, List.append_assoc, List.singleton_append,
        readText.eq_4 _ _ (by simp [guarded]) (by simp [guarded]), if_neg guarded.1, ih]
      rfl

theorem tokens_blanks {s : List Char} (blank : ∀ c ∈ s, Text.isBlank c = true)
    (rest : List Char) : tokens (s ++ rest) = tokens rest := by
  induction s with
  | nil => rfl
  | cons c s ih =>
    rw [List.cons_append, tokens, if_pos (blank c (by simp))]
    exact ih fun d member => blank d (by simp [member])

theorem tokens_name {s rest : List Char} (identifier : IsIdentifier s)
    (stop : Stops isNamePart rest) :
    tokens (s ++ rest) = (tokens rest).map (.name (String.ofList s) :: ·) := by
  cases s with
  | nil => exact identifier.elim
  | cons c s =>
    obtain ⟨start, parts⟩ := identifier
    have notBlank := isBlank_of_isNamePart (isNamePart_of_isNameStart start)
    have notMark : c ≠ '(' ∧ c ≠ ')' ∧ c ≠ ',' ∧ c ≠ '"' ∧ c ≠ '-' := by
      refine ⟨?_, ?_, ?_, ?_, ?_⟩ <;> rintro rfl <;> revert start <;> decide
    have notNumber : startsNumber (c :: (s ++ rest)) = false := by
      simp [startsNumber, isDigit_of_isNameStart start, notMark]
    rw [List.cons_append, tokens.eq_def]
    simp [notBlank, notMark, notNumber, start, takeWhile_append parts stop,
      dropWhile_append parts stop]

/-- What a number begins with is neither blank nor a mark. -/
theorem plain_of_startsNumber {c : Char} {s : List Char} (h : startsNumber (c :: s) = true) :
    Text.isBlank c = false ∧ c ≠ '(' ∧ c ≠ ')' ∧ c ≠ ',' ∧ c ≠ '"' := by
  simp only [startsNumber, Bool.or_eq_true, Bool.and_eq_true, beq_iff_eq] at h
  rcases h with digit | ⟨rfl, _⟩
  · refine ⟨isBlank_of_isNamePart (isNamePart_of_isNumberPart (by simp [isNumberPart, digit])),
      ?_, ?_, ?_, ?_⟩ <;> rintro rfl <;> revert digit <;> decide
  · decide

/-- The first character of an integer shows that it is a number; the others are digits. -/
theorem decimal_eq_cons (i : Int) :
    ∃ c s, Numeral.decimal i = c :: s ∧ (∀ rest, startsNumber (c :: (s ++ rest)) = true) ∧
      ∀ d ∈ s, isNumberPart d = true := by
  have digits : ∀ n : Nat, ∀ d ∈ Nat.toDigits 10 n, d.isDigit = true := fun n _ member =>
    Nat.isDigit_of_mem_toDigits (by decide) (by decide) member
  cases i with
  | ofNat n =>
    obtain ⟨c, s, written, digit⟩ := Numeral.toDigits_eq_cons n
    refine ⟨c, s, written, fun rest => by simp [startsNumber, digit], fun d member => ?_⟩
    simp [isNumberPart, digits n d (by simp [written, member])]
  | negSucc n =>
    obtain ⟨c, s, written, digit⟩ := Numeral.toDigits_eq_cons (n + 1)
    refine ⟨'-', c :: s, by rw [Numeral.decimal, written], fun rest => ?_, fun d member => ?_⟩
    · simp [startsNumber, digit]
    · simp [isNumberPart, digits (n + 1) d (by rwa [written])]

/-- A number is read up to what it cannot go on with. -/
theorem tokens_number {c : Char} {s rest : List Char} {t : Token}
    (starts : startsNumber (c :: (s ++ rest)) = true) (parts : ∀ d ∈ s, isNumberPart d = true)
    (stop : Stops isNumberPart rest) (read : number (String.ofList (c :: s)) = .ok t) :
    tokens (c :: s ++ rest) = (tokens rest).map (t :: ·) := by
  obtain ⟨notBlank, notMark⟩ := plain_of_startsNumber starts
  rw [List.cons_append, tokens.eq_def]
  simp only [notBlank, notMark, starts, takeWhile_append parts stop, dropWhile_append parts stop,
    read, if_true, if_false, Bool.false_eq_true]

theorem tokens_int (n : Int64) {rest : List Char} (stop : Stops isNumberPart rest) :
    tokens ((Token.int n).spelling ++ rest) = (tokens rest).map (.int n :: ·) := by
  obtain ⟨c, s, written, starts, parts⟩ := decimal_eq_cons n.toInt
  have spelling : (Token.int n).spelling = c :: s := by
    rw [Token.spelling, Numeral.toList_toString, written]
  have read : number (String.ofList (c :: s)) = .ok (.int n) := by
    rw [← written, ← Numeral.toList_toString, String.ofList_toList, number,
      Numeral.integer64?_toString]
  rw [spelling, tokens_number (starts rest) parts stop read]

theorem tokens_text (s : String) (rest : List Char) :
    tokens ((Token.text s).spelling ++ rest) = (tokens rest).map (.text s :: ·) := by
  have notBlank : Text.isBlank '"' = false := by decide
  rw [Token.spelling, List.cons_append, List.append_assoc, List.singleton_append, tokens.eq_def]
  simp only [notBlank, Bool.false_eq_true, Char.reduceEq, if_false, if_true]
  split
  · rename_i read
    simp [readText_quoted] at read
  · rename_i found after read
    obtain ⟨rfl, rfl⟩ : s.toList = found ∧ rest = after := by simpa [readText_quoted] using read
    rw [String.ofList_toList]

theorem tokens_mark {t : Token} (mark : t.IsMark) (rest : List Char) :
    tokens (t.spelling ++ rest) = (tokens rest).map (t :: ·) := by
  have notBlank : Text.isBlank '(' = false ∧ Text.isBlank ')' = false ∧ Text.isBlank ',' = false :=
    by decide
  rcases mark with rfl | rfl | rfl <;>
    rw [Token.spelling, List.singleton_append, tokens] <;> simp [notBlank]

/-- A token is read back from its spelling when no other word follows it at once. -/
theorem tokens_spelling {t : Token} (spelt : t.Spelt) {rest : List Char}
    (apart : t.IsMark ∨ Stops isNamePart rest) :
    tokens (t.spelling ++ rest) = (tokens rest).map (t :: ·) := by
  cases spelt with
  | @name s identifier =>
    have stop : Stops isNamePart rest := by simpa [Token.IsMark] using apart
    rw [Token.spelling, tokens_name identifier stop, String.ofList_toList]
  | text s => exact tokens_text s rest
  | int n =>
    have stop : Stops isNamePart rest := by simpa [Token.IsMark] using apart
    refine tokens_int n fun c head => ?_
    by_contra part
    rw [Bool.not_eq_false] at part
    exact absurd (isNamePart_of_isNumberPart part) (by simp [stop c head])
  | mark known => exact tokens_mark known rest

/-- No word goes on with blanks or with a mark. -/
theorem stops_layOut (gap : Nat → Blanks) {ts : List Token} (marked : ∀ t ∈ ts.head?, t.IsMark) :
    Stops isNamePart (layOut gap ts) := by
  intro c head
  by_contra part
  rw [Bool.not_eq_false] at part
  have notBlank := isBlank_of_isNamePart part
  have blank := (gap 0).blank
  cases chars : (gap 0).chars with
  | cons d more =>
    rw [chars] at blank
    cases ts <;> simp_all [layOut]
  | nil =>
    cases ts with
    | nil => simp [layOut, chars] at head
    | cons t ts =>
      rcases marked t rfl with rfl | rfl | rfl
      all_goals
        obtain rfl : _ = c := by simpa [layOut, chars, Token.spelling] using head
        exact absurd part (by decide)

theorem tokens_layOut (gap : Nat → Blanks) {ts : List Token} (spelt : ∀ t ∈ ts, t.Spelt)
    (divided : ts.IsChain fun t u => t.IsMark ∨ u.IsMark) :
    tokens (layOut gap ts) = .ok ts := by
  induction ts generalizing gap with
  | nil =>
    rw [layOut, ← List.append_nil (gap 0).chars, tokens_blanks (gap 0).blank, tokens]
  | cons t ts ih =>
    rw [List.isChain_cons] at divided
    have apart : t.IsMark ∨ Stops isNamePart (layOut (fun i => gap (i + 1)) ts) := by
      by_cases mark : t.IsMark
      · exact .inl mark
      · exact .inr (stops_layOut _ fun u head => (divided.1 u head).resolve_left mark)
    rw [layOut, tokens_blanks (gap 0).blank, tokens_spelling (spelt t (by simp)) apart,
      ih _ (fun u member => spelt u (by simp [member])) divided.2]
    rfl

theorem spelt_argumentTokens {es : List Expression}
    (each : ∀ e ∈ es, ∀ t ∈ e.tokens, t.Spelt) : ∀ t ∈ argumentTokens es, t.Spelt := by
  have mark : ∀ t : Token, t.IsMark → t.Spelt := fun _ => .mark
  induction es with
  | nil => simpa [argumentTokens] using mark .closing (by simp [Token.IsMark])
  | cons e es ih =>
    have here := each e (by simp)
    have further := ih fun d member => each d (by simp [member])
    by_cases last : es = []
    · subst last
      intro t member
      rw [argumentTokens, List.mem_append, List.mem_singleton] at member
      rcases member with member | rfl
      · exact here t member
      · exact mark _ (by simp [Token.IsMark])
    · intro t member
      rw [argumentTokens_cons last, List.mem_append, List.mem_cons] at member
      rcases member with member | rfl | member
      · exact here t member
      · exact mark _ (by simp [Token.IsMark])
      · exact further t member

theorem Expression.Source.spelt {e : Expression} (h : e.Source) : ∀ t ∈ e.tokens, t.Spelt := by
  induction h with
  | text s => simpa [tokens] using Token.Spelt.text s
  | int n => simpa [tokens] using Token.Spelt.int n
  | bool b => cases b <;> simpa [tokens] using Token.Spelt.name (by simp [IsIdentifier]; decide)
  | null => simpa [tokens] using Token.Spelt.name (by simp [IsIdentifier]; decide)
  | name identifier _ => simpa [tokens] using Token.Spelt.name identifier
  | call identifier _ ih =>
    simp only [tokens, List.forall_mem_cons]
    exact ⟨.name identifier, .mark (.inl rfl), spelt_argumentTokens ih⟩

/-- Between two tokens that are no marks there is always a mark. -/
abbrev IsDivided (ts : List Token) : Prop := ts.IsChain fun t u => t.IsMark ∨ u.IsMark

theorem isDivided_append_mark {ts us : List Token} {mark : Token} (known : mark.IsMark)
    (front : IsDivided ts) (back : IsDivided us) : IsDivided (ts ++ mark :: us) := by
  refine List.isChain_append.mpr ⟨front, List.isChain_cons.mpr ⟨fun _ _ => .inl known, back⟩, ?_⟩
  rintro t _ u head
  obtain rfl : mark = u := by simpa using head
  exact .inr known

theorem isDivided_argumentTokens {es : List Expression} (each : ∀ e ∈ es, IsDivided e.tokens) :
    IsDivided (argumentTokens es) := by
  induction es with
  | nil => simp [argumentTokens]
  | cons e es ih =>
    have here := each e (by simp)
    by_cases last : es = []
    · subst last
      exact isDivided_append_mark (.inr (.inl rfl)) here .nil
    · rw [argumentTokens_cons last]
      exact isDivided_append_mark (.inr (.inr rfl)) here
        (ih fun d member => each d (by simp [member]))

theorem Expression.Source.isDivided {e : Expression} (h : e.Source) : IsDivided e.tokens := by
  induction h with
  | bool b => cases b <;> simp [tokens]
  | @call function arguments _ _ ih =>
    have front : IsDivided [.name function] := by simp
    exact isDivided_append_mark (.inl rfl) front (isDivided_argumentTokens ih)
  | _ => simp [tokens]

end Spelling

/-- Signatures are read exactly. An expression is read back from its tokens, with any blanks
between them, and nothing is left over. Conversely, a list of tokens is read whole only if it is
what the expression that is read is written with; every other list is refused as misspelt. -/
theorem parse_exact :
    (∀ e : Expression, e.Source → ∀ gap : Nat → Blanks,
      tokens (layOut gap e.tokens) = .ok e.tokens ∧
        parse (String.ofList (layOut gap e.tokens)) = .ok e) ∧
    ∀ ts : List Token,
      (∃ e : Expression, e.Proper ∧ ts = e.tokens ∧ whole ts = .ok e) ∨
      (∀ e : Expression, e.Proper → ts ≠ e.tokens) ∧
        ∃ fault, whole ts = .error fault ∧
          ∀ (f : Factory) (instances : Instances) (objects : Objects) (s : String),
            tokens s.toList = .ok ts →
              f.build instances objects s = .error (.misspelt fault) := by
  constructor
  · intro e source gap
    have read := tokens_layOut gap source.spelt source.isDivided
    refine ⟨read, ?_⟩
    rw [parse, String.toList_ofList, read]
    exact whole_eq_ok_iff.mpr ⟨source.proper, rfl⟩
  · intro ts
    by_cases written : ∃ e : Expression, e.Proper ∧ ts = e.tokens
    · obtain ⟨e, proper, same⟩ := written
      exact .inl ⟨e, proper, same, whole_eq_ok_iff.mpr ⟨proper, same⟩⟩
    · have other : ∀ e : Expression, e.Proper → ts ≠ e.tokens := fun e proper same =>
        written ⟨e, proper, same⟩
      obtain ⟨fault, refused⟩ := whole_eq_error other
      exact .inr ⟨other, fault, refused, fun f instances objects s spelt =>
        build_eq_error f instances objects spelt refused⟩

end Runbook.Signature
