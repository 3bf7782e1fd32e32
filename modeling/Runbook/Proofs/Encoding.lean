import Runbook.Text.Utf8
/-! Text as bytes and back. Every character is read back from its bytes, whatever comes after them,
so that a text is read back as a whole; and no byte of another character looks like a line feed. -/
namespace Runbook.Text

def encode (s : List Char) : Bytes := s.flatMap String.utf8EncodeChar

@[simp] theorem encode_nil : encode [] = [] := rfl

@[simp] theorem encode_append (s t : List Char) : encode (s ++ t) = encode s ++ encode t :=
  List.flatMap_append

theorem encode_cons (c : Char) (s : List Char) :
    encode (c :: s) = String.utf8EncodeChar c ++ encode s := List.flatMap_cons

section Reading

variable {first b c d : UInt8} {rest : Bytes}

theorem between (lo hi : UInt8) (low : lo.toNat ≤ b.toNat) (high : b.toNat ≤ hi.toNat) :
    (decide (lo ≤ b) && decide (b ≤ hi)) = true := by
  simp only [Bool.and_eq_true, decide_eq_true_eq, UInt8.le_iff_toNat_le]
  exact ⟨low, high⟩

theorem not_between {lo hi : UInt8} (out : b.toNat < lo.toNat ∨ hi.toNat < b.toNat) :
    ¬ (decide (lo ≤ b) && decide (b ≤ hi)) = true := by
  simp only [Bool.and_eq_true, decide_eq_true_eq, UInt8.le_iff_toNat_le]
  omega

theorem not_below {lo : UInt8} (low : lo.toNat ≤ b.toNat) : ¬ b < lo := by
  rw [UInt8.lt_iff_toNat_lt]
  omega

theorem within_secondOfThree (low : 128 ≤ b.toNat) (high : b.toNat ≤ 191)
    (least : first.toNat = 224 → 160 ≤ b.toNat) (most : first.toNat = 237 → b.toNat ≤ 159) :
    within (secondOfThree first) b = true := by
  unfold secondOfThree
  split
  · rename_i same
    have value : first.toNat = 224 := congrArg UInt8.toNat (beq_iff_eq.mp same)
    simp [within, least value, high]
  split
  · rename_i same
    have value : first.toNat = 237 := congrArg UInt8.toNat (beq_iff_eq.mp same)
    simp [within, low, most value]
  · simp [within, low, high]

theorem within_secondOfFour (low : 128 ≤ b.toNat) (high : b.toNat ≤ 191)
    (least : first.toNat = 240 → 144 ≤ b.toNat) (most : first.toNat = 244 → b.toNat ≤ 143) :
    within (secondOfFour first) b = true := by
  unfold secondOfFour
  split
  · rename_i same
    have value : first.toNat = 240 := congrArg UInt8.toNat (beq_iff_eq.mp same)
    simp [within, least value, high]
  split
  · rename_i same
    have value : first.toNat = 244 := congrArg UInt8.toNat (beq_iff_eq.mp same)
    simp [within, low, most value]
  · simp [within, low, high]

theorem decodeOne_one (small : first.toNat < 128) :
    decodeOne first rest = (some (Char.ofNat first.toNat), rest) := by
  have one : first < 0x80 := UInt8.lt_iff_toNat_lt.mpr small
  rw [decodeOne.eq_def, if_pos one]

theorem decodeOne_two (low : 194 ≤ first.toNat) (high : first.toNat ≤ 223)
    (second : isTail b = true) :
    decodeOne first (b :: rest) =
      (some (Char.ofNat (first.toNat % 32 * 64 + tailBits b)), rest) := by
  rw [decodeOne.eq_def, if_neg (not_below (Nat.le_trans (by decide) low)),
    if_pos (between 0xC2 0xDF low high)]
  simp only [second, if_true]

theorem decodeOne_three (low : 224 ≤ first.toNat) (high : first.toNat ≤ 239)
    (second : within (secondOfThree first) b = true) (third : isTail c = true) :
    decodeOne first (b :: c :: rest) =
      (some (Char.ofNat ((first.toNat % 16 * 64 + tailBits b) * 64 + tailBits c)), rest) := by
  rw [decodeOne.eq_def, if_neg (not_below (Nat.le_trans (by decide) low)),
    if_neg (not_between (.inr (Nat.lt_of_lt_of_le (by decide) low))),
    if_pos (between 0xE0 0xEF low high)]
  simp only [second, third, if_true]

theorem decodeOne_four (low : 240 ≤ first.toNat) (high : first.toNat ≤ 244)
    (second : within (secondOfFour first) b = true) (third : isTail c = true)
    (fourth : isTail d = true) :
    decodeOne first (b :: c :: d :: rest) =
      (some (Char.ofNat (((first.toNat % 8 * 64 + tailBits b) * 64 + tailBits c) * 64
        + tailBits d)), rest) := by
  rw [decodeOne.eq_def, if_neg (not_below (Nat.le_trans (by decide) low)),
    if_neg (not_between (.inr (Nat.lt_of_lt_of_le (by decide) low))),
    if_neg (not_between (.inr (Nat.lt_of_lt_of_le (by decide) low))),
    if_pos (between 0xF0 0xF4 low high)]
  simp only [second, third, fourth, if_true]

end Reading

section Characters

variable {n : Nat}

theorem toNat_byte (small : n < 256) : (UInt8.ofNat n).toNat = n := by
  rw [UInt8.toNat_ofNat']
  exact Nat.mod_eq_of_lt small

/-- A byte that carries the last six bits of a number. -/
theorem toNat_tail (n : Nat) : (UInt8.ofNat (n % 64 + 128)).toNat = n % 64 + 128 :=
  toNat_byte (by omega)

theorem isTail_tail (n : Nat) : isTail (UInt8.ofNat (n % 64 + 128)) = true := by
  apply between 0x80 0xBF
  · rw [toNat_tail]
    exact Nat.le_add_left 128 _
  · rw [toNat_tail]
    change _ ≤ 191
    omega

theorem tailBits_tail (n : Nat) : tailBits (UInt8.ofNat (n % 64 + 128)) = n % 64 := by
  rw [tailBits, toNat_tail]
  omega

/-- A character is read back from its bytes. -/
theorem decodeOne_utf8EncodeChar (c : Char) (rest : Bytes) :
    ∃ first tail, String.utf8EncodeChar c = first :: tail ∧
      decodeOne first (tail ++ rest) = (some c, rest) := by
  have valid : c.val.toNat < 55296 ∨ 57343 < c.val.toNat ∧ c.val.toNat < 1114112 := c.valid
  have back : ∀ v, v = c.val.toNat → Char.ofNat v = c := fun v same => by
    rw [same, Char.toNat_val, Char.ofNat_toNat]
  generalize value : c.val.toNat = v at valid back
  unfold String.utf8EncodeChar
  simp only [value]
  split
  · rename_i one
    refine ⟨_, _, rfl, ?_⟩
    have first : (UInt8.ofNat v).toNat = v := toNat_byte (by omega)
    rw [List.nil_append, decodeOne_one (by omega), first, back v rfl]
  split
  · rename_i one two
    refine ⟨_, _, rfl, ?_⟩
    have first : (UInt8.ofNat (v / 64 % 32 + 192)).toNat = v / 64 % 32 + 192 :=
      toNat_byte (by omega)
    rw [List.singleton_append, decodeOne_two (by omega) (by omega) (isTail_tail v), first,
      tailBits_tail, back _ (by omega)]
  split
  · rename_i one two three
    refine ⟨_, _, rfl, ?_⟩
    have first : (UInt8.ofNat (v / 4096 % 16 + 224)).toNat = v / 4096 % 16 + 224 :=
      toNat_byte (by omega)
    have second := toNat_tail (v / 64)
    rw [List.cons_append, List.singleton_append,
      decodeOne_three (by omega) (by omega)
        (within_secondOfThree (by omega) (by omega) (by omega) (by omega)) (isTail_tail v),
      first, tailBits_tail, tailBits_tail, back _ (by omega)]
  · rename_i one two three
    refine ⟨_, _, rfl, ?_⟩
    have first : (UInt8.ofNat (v / 262144 % 8 + 240)).toNat = v / 262144 % 8 + 240 :=
      toNat_byte (by omega)
    have second := toNat_tail (v / 4096)
    rw [List.cons_append, List.cons_append, List.singleton_append,
      decodeOne_four (by omega) (by omega)
        (within_secondOfFour (by omega) (by omega) (by omega) (by omega)) (isTail_tail (v / 64))
        (isTail_tail v),
      first, tailBits_tail, tailBits_tail, tailBits_tail, back _ (by omega)]

/-- Only a line feed has the byte of a line feed. -/
theorem eq_of_mem_utf8EncodeChar {c : Char} (member : 10 ∈ String.utf8EncodeChar c) : c = '\n' := by
  have high : ∀ n, n < 128 → (10 : UInt8) ≠ UInt8.ofNat (n + 128) := by
    intro n small same
    have value := congrArg UInt8.toNat same
    rw [toNat_byte (by omega)] at value
    change 10 = _ at value
    omega
  have lead : ∀ n k, 192 ≤ k → n + k < 256 → (10 : UInt8) ≠ UInt8.ofNat (n + k) := by
    intro n k least most
    obtain ⟨m, rfl⟩ : ∃ m, k = m + 128 := ⟨k - 128, by omega⟩
    rw [← Nat.add_assoc]
    exact high (n + m) (by omega)
  unfold String.utf8EncodeChar at member
  generalize value : c.val.toNat = v at member
  simp only at member
  split at member
  · rename_i one
    have same : (10 : UInt8) = UInt8.ofNat v := List.mem_singleton.mp member
    have ten := congrArg UInt8.toNat same
    rw [toNat_byte (by omega)] at ten
    rw [← Char.ofNat_toNat c, ← Char.toNat_val, value, ← ten]
    rfl
  split at member
  · simp only [List.mem_cons, List.not_mem_nil, or_false] at member
    rcases member with same | same
    · exact absurd same (lead _ _ (by omega) (by omega))
    · exact absurd same (high _ (by omega))
  split at member
  · simp only [List.mem_cons, List.not_mem_nil, or_false] at member
    rcases member with same | same | same
    · exact absurd same (lead _ _ (by omega) (by omega))
    · exact absurd same (high _ (by omega))
    · exact absurd same (high _ (by omega))
  · simp only [List.mem_cons, List.not_mem_nil, or_false] at member
    rcases member with same | same | same | same
    · exact absurd same (lead _ _ (by omega) (by omega))
    · exact absurd same (high _ (by omega))
    · exact absurd same (high _ (by omega))
    · exact absurd same (high _ (by omega))

end Characters

section Texts

variable {s : List Char}

theorem decode_encode (s : List Char) : decode (encode s) = s.map some := by
  induction s with
  | nil => rw [encode_nil, decode, List.map_nil]
  | cons c s ih =>
    obtain ⟨first, tail, bytes, back⟩ := decodeOne_utf8EncodeChar c (encode s)
    rw [encode_cons, bytes, List.cons_append, decode, back, ih, List.map_cons]

/-- A text is read back from its bytes. -/
theorem ofBytes?_encode (s : List Char) : ofBytes? (encode s) = some (String.ofList s) := by
  have all : (s.map some).mapM id = some s := by
    induction s with
    | nil => rfl
    | cons c s ih => simp [ih]
  rw [ofBytes?, decode_encode, all, Option.map_some]

/-- Every character takes a byte at least. -/
theorem length_le_encode (s : List Char) : s.length ≤ (encode s).length := by
  induction s with
  | nil => simp
  | cons c s ih =>
    have more := List.length_pos_iff.mpr (String.utf8EncodeChar_ne_nil (c := c))
    rw [encode_cons, List.length_append, List.length_cons]
    omega

theorem not_mem_encode (free : '\n' ∉ s) : 10 ∉ encode s := by
  intro member
  obtain ⟨c, there, byte⟩ := List.mem_flatMap.mp member
  exact free (eq_of_mem_utf8EncodeChar byte ▸ there)

end Texts

end Runbook.Text
