import Runbook.Pattern.Meaning
import Runbook.Pattern.Reader
import Runbook.Pattern.Size
/-! Patterns from text, within the limits of depth and size. -/
namespace Runbook.Pattern

/-- Why a text gives no pattern. -/
inductive Fault where
  | malformed
  | tooLarge
  deriving DecidableEq, Repr

/-- What is said behind the text of the pattern. -/
def Fault.message : Fault → String
  | .malformed => ""
  | .tooLarge =>
    ": Compiled regex exceeds size limit of " ++ toString Tally.limit ++ " bytes."

def Syntax.isTooDeep (s : Syntax) : Bool := depthLimit < s.depth

/-- The pattern that a text is the written form of, however large. -/
def parse? (text : String) : Option Pattern :=
  (Reader.read? text).bind fun s => if s.isTooDeep then none else s.meaning?

/-- The pattern that a text is the written form of. -/
def read (text : String) : Except Fault Pattern :=
  match parse? text with
  | none => .error .malformed
  | some p => if p.isTooLarge then .error .tooLarge else .ok p

end Runbook.Pattern
