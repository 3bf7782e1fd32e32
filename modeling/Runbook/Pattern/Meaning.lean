import Runbook.Pattern.Basic
import Runbook.Pattern.Reader.Bracket
import Runbook.Unicode.Folding
import Runbook.Unicode.Query
/-! What written patterns mean. The flags of a place decide on case, lines and dots; without
`unicode`, sets and their opposites are of ASCII characters, and nothing may stand for a byte
that is no character. -/
namespace Runbook.Pattern

structure Flags where
  ignoreCase : Bool
  multiLine : Bool
  dotAll : Bool
  swapGreed : Bool
  unicode : Bool
  crlf : Bool
  deriving DecidableEq, Repr

namespace Flags

def initial : Flags := ⟨false, false, false, false, true, false⟩

def set (f : Flags) : Flag × Bool → Flags
  | (.ignoreCase, value) => { f with ignoreCase := value }
  | (.multiLine, value) => { f with multiLine := value }
  | (.dotAll, value) => { f with dotAll := value }
  | (.swapGreed, value) => { f with swapGreed := value }
  | (.unicode, value) => { f with unicode := value }
  | (.crlf, value) => { f with crlf := value }
  | (.verbose, _) => f

def change (f : Flags) (c : FlagChange) : Flags := c.foldl set f

/-- A set with the counterparts of its characters, where case does not count. -/
def fold (f : Flags) (s : CharSet) : CharSet :=
  if f.ignoreCase then
    if f.unicode then Unicode.Folding.closure s else Unicode.Folding.asciiClosure s
  else s

/-- A set that may be used under the flags. -/
def allow? (f : Flags) (s : CharSet) : Option CharSet :=
  if f.unicode || s.isAscii then some s else none

/-- A set, or all other characters. -/
def negate? (f : Flags) (negated : Bool) (s : CharSet) : Option CharSet :=
  f.allow? (if negated then s.compl else s)

/-- A character as a pattern. A byte of its own is no character unless it is an ASCII one. -/
def letter? (f : Flags) (l : Letter) : Option Pattern :=
  if !f.unicode && l.byte && 0x80 ≤ l.char.toNat then none
  else if f.ignoreCase then some (oneOf (f.fold (.singleton l.char)) !f.unicode)
  else some (literal [l.char])

end Flags

def Shorthand.set (unicode : Bool) : Shorthand → CharSet
  | digit =>
    if unicode then Unicode.Category.set .sixteen .decimalNumber else Unicode.set "30-39"
  | space => if unicode then Unicode.Property.ofList "wspace" else Unicode.set "9-D 20"
  | word => Place.wordSet !unicode

def Query.set? : Query → Option CharSet
  | named name => Unicode.named? name
  | valued property value => Unicode.valued? property value

def SetOperation.apply : SetOperation → CharSet → CharSet → CharSet
  | intersection => .inter
  | difference => .diff
  | symmetricDifference => .symmDiff

def asciiSet (name : String) : CharSet :=
  Unicode.set (((Reader.asciiSets.find? (·.1 == name)).map Prod.snd).getD "")

/-- The set of a written one. -/
def SetSyntax.meaning? (f : Flags) : SetSyntax → Option CharSet
  | nothing => some .empty
  | letter l => f.allow? (.singleton l.char)
  | range first last => f.allow? (.ofRange first.char.toNat last.char.toNat)
  | ascii name negated => f.negate? negated (f.fold (asciiSet name))
  | query q negated => if f.unicode then q.set?.bind fun s => f.negate? negated (f.fold s) else none
  | shorthand s negated => f.negate? negated (s.set f.unicode)
  | bracket negated body => do f.negate? negated (f.fold (← meaning? f body))
  | joined first rest => do return (← meaning? f first) ∪ (← meaning? f rest)
  | combined op left right => do
    return op.apply (f.fold (← meaning? f left)) (f.fold (← meaning? f right))

def PlaceSyntax.meaning (f : Flags) : PlaceSyntax → Place
  | lineStart => if f.multiLine then .lineStart f.crlf else .textStart
  | lineEnd => if f.multiLine then .lineEnd f.crlf else .textEnd
  | textStart => .textStart
  | textEnd => .textEnd
  | word kind => .word kind !f.unicode

/-- Any character, or any that ends no line. -/
def dot? (f : Flags) : Option Pattern :=
  if !f.unicode then none
  else if f.dotAll then some (one .full false)
  else some (one (Unicode.set (if f.crlf then "A D" else "A")).compl false)

/-- The alternatives of a written pattern, and the flags behind it. -/
def Syntax.meanings? (f : Flags) : Syntax → Option (List Pattern × Flags)
  | empty => some ([.empty], f)
  | letter l => (f.letter? l).map fun p => ([p], f)
  | dot => (dot? f).map fun p => ([p], f)
  | place p => some ([.place (p.meaning f)], f)
  | set s => (s.meaning? f).map fun s => ([oneOf s !f.unicode], f)
  | flags change => some ([.empty], f.change change)
  | capture body => (meanings? f body).map fun (ps, _) => ([.group (choice ps)], f)
  | group change body => (meanings? (f.change change) body).map fun (ps, _) => ([choice ps], f)
  | repeated body least most prefersShort =>
    (meanings? f body).map fun (ps, f) =>
      ([.repeated (choice ps) least most (prefersShort != f.swapGreed)], f)
  | sequence first rest => do
    let (ps, f) ← meanings? f first
    let (qs, f) ← meanings? f rest
    return ([append (choice ps) (choice qs)], f)
  | either first rest => do
    let (ps, f) ← meanings? f first
    let (qs, f) ← meanings? f rest
    return (ps ++ qs, f)

def Syntax.meaning? (s : Syntax) : Option Pattern :=
  (s.meanings? .initial).map fun (ps, _) => choice ps

end Runbook.Pattern
