import Runbook.Text.Utf8
/-! Percent signs in addresses: with two hexadecimal digits after it, a sign stands for the byte
of that number, else for itself. -/
namespace Runbook.Text.Percent

def hexValue? (b : UInt8) : Option Nat :=
  let n := b.toNat
  if 0x30 ≤ n ∧ n ≤ 0x39 then some (n - 0x30)
  else if 0x41 ≤ n ∧ n ≤ 0x46 then some (n - 0x41 + 10)
  else if 0x61 ≤ n ∧ n ≤ 0x66 then some (n - 0x61 + 10)
  else none

def sign : UInt8 := 0x25

/-- The byte that two digits name. -/
def byte? (high low : UInt8) : Option UInt8 :=
  (hexValue? high).bind fun h => (hexValue? low).map fun l => UInt8.ofNat (16 * h + l)

def decode : Bytes → Bytes
  | b :: high :: low :: rest =>
    match if b = sign then byte? high low else none with
    | some byte => byte :: decode rest
    | none => b :: decode (high :: low :: rest)
  | rest => rest

end Runbook.Text.Percent
