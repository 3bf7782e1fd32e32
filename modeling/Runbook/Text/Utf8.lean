/-! Bytes as text. A malformed stretch is one of the longest pieces that some well-formed
character starts with, or else a single byte; each counts as one fault. -/
namespace Runbook

abbrev Bytes := List UInt8

namespace Text

def isTail (b : UInt8) : Bool := 0x80 ≤ b && b ≤ 0xBF

/-- The six bits that a byte after the first one carries. -/
def tailBits (b : UInt8) : Nat := b.toNat % 64

/-- The range of the second byte after a given first byte of three. -/
def secondOfThree (b : UInt8) : Nat × Nat :=
  if b == 0xE0 then (0xA0, 0xBF) else if b == 0xED then (0x80, 0x9F) else (0x80, 0xBF)

/-- The range of the second byte after a given first byte of four. -/
def secondOfFour (b : UInt8) : Nat × Nat :=
  if b == 0xF0 then (0x90, 0xBF) else if b == 0xF4 then (0x80, 0x8F) else (0x80, 0xBF)

def within (range : Nat × Nat) (b : UInt8) : Bool :=
  range.1 ≤ b.toNat && b.toNat ≤ range.2

/-- One character, or one fault, from the front, and the bytes after it. -/
def decodeOne (first : UInt8) (rest : Bytes) : Option Char × Bytes :=
  if first < 0x80 then (some (Char.ofNat first.toNat), rest)
  else if 0xC2 ≤ first && first ≤ 0xDF then
    match rest with
    | b :: r => if isTail b then (some (Char.ofNat (first.toNat % 32 * 64 + tailBits b)), r)
      else (none, rest)
    | [] => (none, rest)
  else if 0xE0 ≤ first && first ≤ 0xEF then
    match rest with
    | b :: r =>
      if within (secondOfThree first) b then
        match r with
        | c :: r' =>
          if isTail c then
            (some (Char.ofNat ((first.toNat % 16 * 64 + tailBits b) * 64 + tailBits c)), r')
          else (none, r)
        | [] => (none, r)
      else (none, rest)
    | [] => (none, rest)
  else if 0xF0 ≤ first && first ≤ 0xF4 then
    match rest with
    | b :: r =>
      if within (secondOfFour first) b then
        match r with
        | c :: r' =>
          if isTail c then
            match r' with
            | d :: r'' =>
              if isTail d then
                (some (Char.ofNat (((first.toNat % 8 * 64 + tailBits b) * 64 + tailBits c) * 64
                  + tailBits d)), r'')
              else (none, r')
            | [] => (none, r')
          else (none, r)
        | [] => (none, r)
      else (none, rest)
    | [] => (none, rest)
  else (none, rest)

theorem length_decodeOne (first : UInt8) (rest : Bytes) :
    (decodeOne first rest).2.length ≤ rest.length := by
  unfold decodeOne
  repeat' split
  all_goals simp_all <;> omega

/-- The characters of a byte string, `none` for each malformed stretch. -/
def decode : Bytes → List (Option Char)
  | [] => []
  | b :: rest => (decodeOne b rest).1 :: decode (decodeOne b rest).2
termination_by bytes => bytes.length
decreasing_by
  have := length_decodeOne b rest
  simp only [List.length_cons]; omega

/-- The text that well-formed bytes stand for. -/
def ofBytes? (bytes : Bytes) : Option String := ((decode bytes).mapM id).map String.ofList

/-- The text with the replacement character for each malformed stretch. -/
def ofBytesLossy (bytes : Bytes) : String :=
  String.ofList ((decode bytes).map (·.getD '\uFFFD'))

def toBytes (s : String) : Bytes := s.toList.flatMap String.utf8EncodeChar

end Text

end Runbook
