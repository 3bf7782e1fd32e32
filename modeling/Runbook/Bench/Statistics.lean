import Runbook.Table
/-! Named counters of 64 bits. A counter that has never been raised is not there. -/
namespace Runbook

abbrev Statistics := Table UInt64

namespace Statistics

def increment (s : Statistics) (name : String) (amount : UInt64) : Statistics :=
  s.set name ((s.get? name).getD 0 + amount)

/-- Adds a duration, in whole milliseconds, to the counter that a name has for it. -/
def addDuration (s : Statistics) (name : String) (microseconds : Nat) : Statistics :=
  s.increment (name ++ ".millis") (UInt64.ofNat (microseconds / 1000))

/-- The counters whose names pass, by increasing name. -/
def snapshot (s : Statistics) (passes : String → Bool) : List (String × UInt64) :=
  s.sorted.filter fun e => passes e.1

end Statistics

end Runbook
