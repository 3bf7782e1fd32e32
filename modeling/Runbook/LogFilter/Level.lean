import Runbook.Number.Numeral
import Runbook.Text.Blank
/-! Levels of the log. Each lets through what the one before it does, and more. -/
namespace Runbook.LogFilter

inductive Level where
  | off
  | error
  | warn
  | info
  | debug
  | trace
  deriving DecidableEq, Repr

namespace Level

def all : List Level := [off, error, warn, info, debug, trace]

def name : Level → String
  | off => "off"
  | error => "error"
  | warn => "warn"
  | info => "info"
  | debug => "debug"
  | trace => "trace"

/-- A level by its place among all of them, or by its name in any mixture of cases. -/
def read? (s : String) : Option Level :=
  ((Numeral.unsigned64? s).bind fun n => all[n]?).or
    (all.find? fun l => Text.lowerAscii s = l.name)

end Level

end Runbook.LogFilter
