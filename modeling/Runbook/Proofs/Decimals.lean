import Runbook.Number.Numeral
/-! Decimal numerals as they are written. Every 64-bit integer is read back. -/
namespace Runbook.Numeral

theorem digit?_of_isDigit {c : Char} (h : c.isDigit = true) :
    digit? c = some (c.toNat - '0'.toNat) := by
  simp only [Char.isDigit, Bool.and_eq_true, decide_eq_true_eq] at h
  exact if_pos h

theorem le_ofDigitChars (s : List Char) (n : Nat) : n ≤ Nat.ofDigitChars 10 s n := by
  induction s generalizing n with
  | nil => exact Nat.le_refl n
  | cons c s ih =>
    calc n ≤ 10 * n + (c.toNat - '0'.toNat) := by omega
      _ ≤ Nat.ofDigitChars 10 (c :: s) n := ih _

/-- Digits are read as their number, and as a fault where it is beyond the bound. -/
theorem extend_eq {bound n : Nat} (fault : NumeralFault) {s : List Char}
    (decimal : ∀ c ∈ s, c.isDigit = true) (le : n ≤ bound) :
    extend bound fault n s =
      if Nat.ofDigitChars 10 s n ≤ bound then .ok (Nat.ofDigitChars 10 s n) else .error fault := by
  induction s generalizing n with
  | nil => simp [extend, le]
  | cons c s ih =>
    have first := digit?_of_isDigit (decimal c (by simp))
    have rest : ∀ d ∈ s, d.isDigit = true := fun d member => decimal d (by simp [member])
    have value : Nat.ofDigitChars 10 (c :: s) n =
        Nat.ofDigitChars 10 s (10 * n + (c.toNat - '0'.toNat)) := rfl
    by_cases within : 10 * n + (c.toNat - '0'.toNat) ≤ bound
    · simp only [extend, first, within, if_true, value]
      exact ih rest within
    · have beyond := le_ofDigitChars s (10 * n + (c.toNat - '0'.toNat))
      simp only [extend, first, within, if_false, value]
      rw [if_neg (by omega)]

theorem digits_eq {bound : Nat} (fault : NumeralFault) {s : List Char} (nonempty : s ≠ [])
    (decimal : ∀ c ∈ s, c.isDigit = true) :
    digits bound fault s =
      if Nat.ofDigitChars 10 s 0 ≤ bound then .ok (Nat.ofDigitChars 10 s 0) else .error fault := by
  rw [digits, if_neg (by simpa using nonempty), extend_eq fault decimal (Nat.zero_le bound)]

theorem ofDigitChars_toDigits (n : Nat) : Nat.ofDigitChars 10 (Nat.toDigits 10 n) 0 = n :=
  Nat.ofDigitChars_toDigits (by decide) (by decide)

theorem isDigit_of_mem_toDigits (n : Nat) : ∀ c ∈ Nat.toDigits 10 n, c.isDigit = true :=
  fun _ => Nat.isDigit_of_mem_toDigits (by decide) (by decide)

theorem toDigits_eq_cons (n : Nat) :
    ∃ c rest, Nat.toDigits 10 n = c :: rest ∧ c.isDigit = true := by
  obtain ⟨c, rest, written⟩ := List.exists_cons_of_ne_nil (Nat.toDigits_ne_nil (b := 10) (n := n))
  have member : c ∈ Nat.toDigits 10 n := by rw [written]; exact List.mem_cons_self
  exact ⟨c, rest, written, isDigit_of_mem_toDigits n c member⟩

theorem natural_of_ne_plus {bound : Nat} {c : Char} {rest : List Char} (notPlus : c ≠ '+') :
    natural bound (c :: rest) = digits bound .tooLarge (c :: rest) :=
  natural.eq_3 _ _ (by simp) (by simp [notPlus])

/-- A sign is no digit. -/
theorem not_sign {s : List Char} (decimal : ∀ c ∈ s, c.isDigit = true) : '+' ∉ s ∧ '-' ∉ s :=
  ⟨fun member => absurd (decimal _ member) (by decide),
    fun member => absurd (decimal _ member) (by decide)⟩

theorem natural_eq {bound : Nat} {s : List Char} (nonempty : s ≠ [])
    (decimal : ∀ c ∈ s, c.isDigit = true) :
    natural bound s =
      if Nat.ofDigitChars 10 s 0 ≤ bound then .ok (Nat.ofDigitChars 10 s 0)
      else .error .tooLarge := by
  obtain ⟨c, rest, rfl⟩ := List.exists_cons_of_ne_nil nonempty
  have notPlus : c ≠ '+' := by
    rintro rfl
    exact (not_sign decimal).1 List.mem_cons_self
  rw [natural_of_ne_plus notPlus, digits_eq .tooLarge nonempty decimal]

def decimal : Int → List Char
  | .ofNat n => Nat.toDigits 10 n
  | .negSucc n => '-' :: Nat.toDigits 10 (n + 1)

theorem toList_toString (i : Int) : (toString i).toList = decimal i := by
  cases i with
  | ofNat n => exact String.toList_ofList
  | negSucc n =>
    change ("-" ++ String.ofList (Nat.toDigits 10 (n + 1))).toList = _
    simp [decimal]

theorem integer_minus {s : List Char} (nonempty : s ≠ [])
    (decimal : ∀ c ∈ s, c.isDigit = true) :
    integer ('-' :: s) =
      if Nat.ofDigitChars 10 s 0 ≤ twoTo 63 then .ok (-(Nat.ofDigitChars 10 s 0 : Int))
      else .error .tooSmall := by
  rw [integer, digits_eq .tooSmall nonempty decimal]
  split <;> rfl

theorem integer_plain {s : List Char} (nonempty : s ≠ [])
    (decimal : ∀ c ∈ s, c.isDigit = true) :
    integer s =
      if Nat.ofDigitChars 10 s 0 ≤ twoTo 63 - 1 then .ok (Nat.ofDigitChars 10 s 0 : Int)
      else .error .tooLarge := by
  obtain ⟨c, rest, rfl⟩ := List.exists_cons_of_ne_nil nonempty
  have notMinus : c ≠ '-' := by
    rintro rfl
    exact (not_sign decimal).2 List.mem_cons_self
  rw [integer.eq_3 _ (by simp) (by simp [notMinus]), natural_eq nonempty decimal]
  split <;> rfl

theorem integer_decimal {i : Int} (lower : -(twoTo 63 : Int) ≤ i) (upper : i < (twoTo 63 : Int)) :
    integer (decimal i) = .ok i := by
  cases i with
  | ofNat n =>
    have := Int.ofNat_eq_natCast n
    rw [decimal, integer_plain Nat.toDigits_ne_nil (isDigit_of_mem_toDigits n),
      ofDigitChars_toDigits, if_pos (by omega), this]
  | negSucc n =>
    rw [decimal, integer_minus Nat.toDigits_ne_nil (isDigit_of_mem_toDigits (n + 1)),
      ofDigitChars_toDigits, if_pos (by omega)]
    rfl

/-- The decimal numeral of a 64-bit integer is read as that integer. -/
theorem integer64?_toString (n : Int64) : integer64? (toString n.toInt) = some n := by
  rw [integer64?, toList_toString, integer_decimal n.le_toInt n.toInt_lt]
  exact congrArg some n.ofInt_toInt

theorem isDigit_of_digit? {c : Char} {d : Nat} (h : digit? c = some d) :
    c.isDigit = true ∧ d = c.toNat - '0'.toNat := by
  unfold digit? at h
  split at h
  · rename_i within
    exact ⟨by simpa [Char.isDigit, Char.le_def] using within, (Option.some.inj h).symm⟩
  · cases h

theorem isDigit_eq (c : Char) : isDigit c = c.isDigit := by
  by_cases digit : c.isDigit = true
  · rw [isDigit, digit?_of_isDigit digit, digit]
    rfl
  · have missing : digit? c = none := by
      cases read : digit? c with
      | none => rfl
      | some d => exact absurd (isDigit_of_digit? read).1 digit
    rw [isDigit, missing, Bool.eq_false_iff.mpr digit]
    rfl

/-- What is read of appended digits is their number, and they are digits. -/
theorem of_extend_eq_ok {bound n m : Nat} {fault : NumeralFault} {s : List Char}
    (h : extend bound fault n s = .ok m) :
    (∀ c ∈ s, c.isDigit = true) ∧ m = Nat.ofDigitChars 10 s n ∧ (n ≤ bound → m ≤ bound) := by
  induction s generalizing n with
  | nil =>
    cases h
    exact ⟨by simp, rfl, id⟩
  | cons c s ih =>
    simp only [extend] at h
    split at h
    · cases h
    · rename_i d read
      obtain ⟨digit, rfl⟩ := isDigit_of_digit? read
      split at h
      · rename_i within
        obtain ⟨digits, value, le⟩ := ih h
        exact ⟨by simpa [digit] using digits, value, fun _ => le within⟩
      · cases h

/-- A numeral of an unsigned number of 64 bits: digits, with a plus sign in front of them or
without. -/
def Unsigned64 (s : List Char) : Prop :=
  ∃ digits, (s = digits ∨ s = '+' :: digits) ∧ digits ≠ [] ∧ (∀ c ∈ digits, c.isDigit = true) ∧
    Nat.ofDigitChars 10 digits 0 < UInt64.size

theorem digits_eq_ok_iff {fault : NumeralFault} {s : List Char} :
    (∃ n, digits maxUnsigned64 fault s = .ok n) ↔
      s ≠ [] ∧ (∀ c ∈ s, c.isDigit = true) ∧ Nat.ofDigitChars 10 s 0 < UInt64.size := by
  have bound : maxUnsigned64 = UInt64.size - 1 := rfl
  have positive : 0 < UInt64.size := by decide
  by_cases empty : s = []
  · simp [digits, empty]
  · have nonempty : s.isEmpty = false := by simpa using empty
    simp only [digits, nonempty, Bool.false_eq_true, if_false, ne_eq, empty, not_false_eq_true,
      true_and]
    constructor
    · rintro ⟨n, read⟩
      obtain ⟨digits, rfl, le⟩ := of_extend_eq_ok read
      have := le (Nat.zero_le _)
      exact ⟨digits, by omega⟩
    · rintro ⟨digits, lt⟩
      exact ⟨_, (extend_eq fault digits (Nat.zero_le _)).trans (if_pos (by omega))⟩

/-- Only numerals of unsigned numbers of 64 bits are read as such. -/
theorem unsigned64?_eq_none_iff {s : String} : unsigned64? s = none ↔ ¬ Unsigned64 s.toList := by
  have read : (∃ n, natural maxUnsigned64 s.toList = .ok n) ↔ Unsigned64 s.toList := by
    generalize s.toList = chars
    constructor
    · intro read
      match chars with
      | [] => exact absurd read (by simp [natural])
      | c :: rest =>
        by_cases plus : c = '+'
        · subst plus
          exact ⟨rest, .inr rfl, digits_eq_ok_iff.mp read⟩
        · rw [natural_of_ne_plus plus] at read
          exact ⟨c :: rest, .inl rfl, digits_eq_ok_iff.mp read⟩
    · rintro ⟨digits, rfl | rfl, nonempty, numeral⟩
      · obtain ⟨c, rest, rfl⟩ := List.exists_cons_of_ne_nil nonempty
        have notPlus : c ≠ '+' := by
          rintro rfl
          exact absurd (numeral.1 '+' List.mem_cons_self) (by decide)
        rw [natural_of_ne_plus notPlus]
        exact digits_eq_ok_iff.mpr ⟨nonempty, numeral⟩
      · exact digits_eq_ok_iff.mpr ⟨nonempty, numeral⟩
  rw [← read, unsigned64?]
  cases natural maxUnsigned64 s.toList <;> simp [Except.toOption]

end Runbook.Numeral
