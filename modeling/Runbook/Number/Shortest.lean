import Runbook.Number.Binary64
/-! Text of floating-point numbers: the fewest decimal digits that read back as the number, of
those the nearest to it, and of two equally near ones the larger. A grid of decimals that has a
point among the numbers reading back also has one right below or right above the exact value,
so for each count of digits only those two are tried. -/
namespace Runbook.Binary64

/-- A finite number above zero in units of a quarter of its last place, with the ends of the
interval of reals that are rounded to it. -/
structure Neighbourhood where
  low : Nat
  value : Nat
  high : Nat
  /-- The unit is `2 ^ unit`. -/
  unit : Int
  /-- Whether the ends themselves are rounded to the number. -/
  closed : Bool

/-- The number below a power of two is half as far away as the one above it. -/
def neighbourhood (m : Nat) (e : Int) : Neighbourhood where
  low := 4 * m - if m = twoTo 52 ∧ e ≠ minExponent then 1 else 2
  value := 4 * m
  high := 4 * m + 2
  unit := e - 2
  closed := m % 2 = 0

/-- `10 ^ s ≤ num / den < 10 ^ (s + 1)`. -/
def decimalExponent (num den : Nat) : Int :=
  if den ≤ num then ((Nat.toDigits 10 (num / den)).length : Int) - 1
  else
    let ceiling := (den + num - 1) / num
    let zeros := (Nat.toDigits 10 (ceiling - 1)).length
    Int.negOfNat zeros

/-- The decimal grid of spacing `10 ^ k`, as a factor for numerators and one for denominators. -/
def gridFactors (k : Int) : Nat × Nat :=
  if 0 ≤ k then (1, tenTo k.toNat) else (tenTo (-k).toNat, 1)

/-- The best decimal on the grid `10 ^ k` that reads back, as a multiple of the spacing. -/
def onGrid? (area : Neighbourhood) (k : Int) : Option Nat :=
  let (num, den) : Nat × Nat :=
    if 0 ≤ area.unit then (twoTo area.unit.toNat, 1) else (1, twoTo (-area.unit).toNat)
  let (up, down) := gridFactors k
  let scaled := area.value * num * up
  let spacing := den * down
  let below := scaled / spacing
  let reads (point : Nat) : Bool :=
    let p := point * spacing
    let low := area.low * num * up
    let high := area.high * num * up
    if area.closed then low ≤ p && p ≤ high else low < p && p < high
  match reads below, reads (below + 1) with
  | true, true =>
    if 2 * (scaled % spacing) < spacing then some below else some (below + 1)
  | true, false => some below
  | false, true => some (below + 1)
  | false, false => none

/-- Tries the grids from coarse to fine; the finest needed has 17 digits. -/
def search (area : Neighbourhood) (s : Int) : Nat → Nat → Nat × Int
  | 0, count => ((onGrid? area (s - count)).getD 0, s - count)
  | fuel + 1, count =>
    match onGrid? area (s - count) with
    | some point => (point, s - count)
    | none => search area s fuel (count + 1)

/-- Digits without trailing zeros, and the power of ten of the first digit. -/
def shortest (m : Nat) (e : Int) : List Char × Int :=
  let area := neighbourhood m e
  let s := if 0 ≤ e then decimalExponent (m * twoTo e.toNat) 1
    else decimalExponent m (twoTo (-e).toNat)
  let (point, k) := search area s 17 0
  let digits := Nat.toDigits 10 point
  let trimmed := (digits.reverse.dropWhile (· = '0')).reverse
  (trimmed, k + digits.length - 1)

/-- How a number is laid out from its digits. -/
structure Layout where
  /-- Whether whole numbers keep a point and a zero. -/
  keepsPoint : Bool
  /-- The powers of ten of the first digit that are written out positionally. -/
  positional : Int → Bool

/-- Displayed numbers are always positional, and whole ones have no point. -/
def displayed : Layout := ⟨false, fun _ => true⟩

/-- Numbers in diagnostics are positional from `10 ^ (-4)` to below `10 ^ 16`, and show that
they are not integers. -/
def diagnostic : Layout := ⟨true, fun s => -4 ≤ s && s < 16⟩

def positionalText (layout : Layout) (digits : List Char) (s : Int) : List Char :=
  if s < 0 then
    ['0', '.'] ++ List.replicate ((-s).toNat - 1) '0' ++ digits
  else
    let whole := s.toNat + 1
    let point := if layout.keepsPoint then ['.', '0'] else []
    if digits.length ≤ whole then
      digits ++ List.replicate (whole - digits.length) '0' ++ point
    else digits.take whole ++ ['.'] ++ digits.drop whole

def exponentText (digits : List Char) (s : Int) : List Char :=
  let power := ['e'] ++ (toString s).toList
  match digits with
  | first :: second :: rest => [first, '.', second] ++ rest ++ power
  | short => short ++ power

def text (layout : Layout) : Binary64 → String
  | .nan => "NaN"
  | .infinite negative => if negative then "-inf" else "inf"
  | .finite negative m e =>
    let unsigned := if m = 0 then positionalText layout ['0'] 0
      else
        let (digits, s) := shortest m e
        if layout.positional s then positionalText layout digits s else exponentText digits s
    String.ofList (if negative then '-' :: unsigned else unsigned)

end Runbook.Binary64
