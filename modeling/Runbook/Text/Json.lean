/-! Texts and objects in JSON. A quote, a backslash and the control characters are escaped;
all other characters stand for themselves. -/
namespace Runbook.Text.Json

def hexDigit (n : Nat) : Char := (Nat.toDigits 16 n).headD '0'

def escape (c : Char) : List Char :=
  if c = '"' then ['\\', '"']
  else if c = '\\' then ['\\', '\\']
  else if c = '\x08' then ['\\', 'b']
  else if c = '\x0c' then ['\\', 'f']
  else if c = '\n' then ['\\', 'n']
  else if c = '\r' then ['\\', 'r']
  else if c = '\t' then ['\\', 't']
  else if c.toNat < 0x20 then
    ['\\', 'u', '0', '0', hexDigit (c.toNat / 16), hexDigit (c.toNat % 16)]
  else [c]

def string (s : String) : String := "\"" ++ String.ofList (s.toList.flatMap escape) ++ "\""

/-- An object on one line; the values are written already. -/
def compactObject (fields : List (String × String)) : String :=
  "\x7b" ++ String.intercalate "," (fields.map fun f => string f.1 ++ ":" ++ f.2) ++ "\x7d"

/-- An object with a line for each field. -/
def prettyObject (fields : List (String × String)) : String :=
  if fields.isEmpty then "\x7b\x7d"
  else "\x7b\n" ++
    String.intercalate ",\n" (fields.map fun f => "  " ++ string f.1 ++ ": " ++ f.2) ++ "\n\x7d"

end Runbook.Text.Json
