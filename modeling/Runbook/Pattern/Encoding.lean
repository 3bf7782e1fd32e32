import Runbook.CharSet
/-! The encoded forms of sets of characters. Characters are written in one to four bytes: a first
one that tells how many there are, and then six bits of the number in each. A set of neighbours
falls into boxes, in which every byte has a range of its own. -/
namespace Runbook.Pattern.Encoding

abbrev ByteRange := Nat × Nat

/-- The ranges of the bytes one after the other. -/
abbrev Box := List ByteRange

/-- What a byte holds behind the first one. -/
def radix : Nat := 64

def radixPower : Nat → Nat
  | 0 => 1
  | n + 1 => radix * radixPower n

/-- The boxes of the numbers from `low` to `high` whose first byte is counted from `base`, with
`more` bytes behind it. -/
def boxes (base : Nat) : Nat → Nat → Nat → List Box
  | 0, low, high => [[(base + low, base + high)]]
  | more + 1, low, high =>
    let size := radixPower (more + 1)
    let behind (low high : Nat) : List Box := boxes 0x80 more low high
    let lead (d : Nat) (rest : List Box) : List Box := rest.map ((base + d, base + d) :: ·)
    let d := low / size
    let e := high / size
    if d = e then lead d (behind (low % size) (high % size))
    else
      let first := if low % size = 0 then [] else lead d (behind (low % size) (size - 1))
      let last := if high % size = size - 1 then [] else lead e (behind 0 (high % size))
      let least := if low % size = 0 then d else d + 1
      let behindMost := if high % size = size - 1 then e + 1 else e
      let whole := if least < behindMost then
          [(base + least, base + behindMost - 1) :: List.replicate (more + 1) (0x80, 0xBF)] else []
      first ++ whole ++ last

/-- The first and the last number that take so many bytes behind the first, which is counted
from `base`. Numbers of no character lie between. -/
structure Length where
  more : Nat
  base : Nat
  low : Nat
  high : Nat

def lengths : List Length := [
  ⟨0, 0, 0, 0x7F⟩, ⟨1, 0xC0, 0x80, 0x7FF⟩, ⟨2, 0xE0, 0x800, 0xD7FF⟩, ⟨2, 0xE0, 0xE000, 0xFFFF⟩,
  ⟨3, 0xF0, 0x10000, 0x10FFFF⟩]

/-- The boxes of a set, in the order of their bytes. -/
def ofSet (s : CharSet) : List Box :=
  s.ranges.flatMap fun (first, last) =>
    lengths.flatMap fun l =>
      if max first l.low ≤ min last l.high then
        boxes l.base l.more (max first l.low) (min last l.high)
      else []

end Runbook.Pattern.Encoding
