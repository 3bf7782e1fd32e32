import Runbook.CharSet
/-! Names in tables of the standard. They are compared loosely: case, spaces, hyphens and low
lines do not count, nor does `is` at the front. -/
namespace Runbook.Unicode

def isFiller (c : Char) : Bool := c == ' ' || c == '_' || c == '-' || 0x80 ≤ c.toNat

/-- A name as it is compared. The short name of one property is all that `is` leaves alone: it
would be taken for that of a category. -/
def loose (name : String) : String :=
  let bare (s : List Char) : List Char := (s.filter (!isFiller ·)).map Char.toLower
  match name.toList with
  | i :: s :: rest =>
    if i.toLower = 'i' ∧ s.toLower = 's' then
      if bare rest = ['c'] then "isc" else String.ofList (bare rest)
    else String.ofList (bare (i :: s :: rest))
  | short => String.ofList (bare short)

/-- What a table has under a loose name. -/
def find? {α : Type} (table : List (List String × α)) (name : String) : Option α :=
  (table.find? fun e => e.1.any fun other => loose other == name).map Prod.snd

end Runbook.Unicode
