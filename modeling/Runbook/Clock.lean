import Runbook.TimeOfDay
/-! The clock of a run and the calendar. Time passes only when a run waits. -/
namespace Runbook

structure Clock where
  /-- Milliseconds from the beginning of 1970 to the start, in local time. -/
  origin : Nat
  /-- Milliseconds since the start. -/
  elapsed : Nat
  deriving DecidableEq, Repr

/-- A moment of the calendar. -/
structure Moment where
  year : Nat
  month : Nat
  day : Nat
  hour : Nat
  minute : Nat
  second : Nat
  millisecond : Nat
  /-- Days since the beginning of 1970. -/
  dayNumber : Nat
  deriving DecidableEq, Repr

namespace Moment

/-- The date of a day, counted from the beginning of 1970. A year begins with March here, so
that the leap day is its last one. -/
def dateOf (dayNumber : Nat) : Nat × Nat × Nat :=
  let z := dayNumber + 719468
  let era := z / 146097
  let doe := z % 146097
  let yoe := (doe - doe / 1460 + doe / 36524 - doe / 146096) / 365
  let doy := doe - (365 * yoe + yoe / 4 - yoe / 100)
  let mp := (5 * doy + 2) / 153
  let day := doy - (153 * mp + 2) / 5 + 1
  let month := if mp < 10 then mp + 3 else mp - 9
  (yoe + era * 400 + (if month ≤ 2 then 1 else 0), month, day)

def ofMilliseconds (n : Nat) : Moment :=
  let dayNumber := n / 86400000
  let ms := n % 86400000
  let (year, month, day) := dateOf dayNumber
  { year, month, day
    hour := ms / 3600000
    minute := ms / 60000 % 60
    second := ms / 1000 % 60
    millisecond := ms % 1000
    dayNumber }

def isLeap (year : Nat) : Bool := (year % 4 == 0 && year % 100 != 0) || year % 400 == 0

/-- The day of the year, from 1. -/
def ordinal (m : Moment) : Nat :=
  let before := [0, 31, 59, 90, 120, 151, 181, 212, 243, 273, 304, 334].getD (m.month - 1) 0
  before + m.day + if 2 < m.month && isLeap m.year then 1 else 0

/-- The day of the week; Monday is 0. -/
def weekday (m : Moment) : Nat := (m.dayNumber + 3) % 7

/-- The week of the year; the first one begins with the first day that is `first` days after a
Monday. -/
def weekFrom (m : Moment) (first : Nat) : Nat :=
  (m.ordinal + 6 - (m.weekday + 7 - first) % 7) / 7

/-- The year that the week of a day belongs to, and its number: the first week of a year is the
one with the first Thursday. -/
def isoWeek (m : Moment) : Nat × Nat :=
  let week := (m.ordinal + 9 - m.weekday) / 7
  let weeksIn (year : Nat) : Nat :=
    let lastDay := (year + year / 4 - year / 100 + year / 400) % 7
    let before := year - 1
    let lastBefore := (before + before / 4 - before / 100 + before / 400) % 7
    if lastDay == 4 || lastBefore == 3 then 53 else 52
  if week = 0 then (m.year - 1, weeksIn (m.year - 1))
  else if weeksIn m.year < week then (m.year + 1, 1)
  else (m.year, week)

end Moment

namespace Clock

def now (c : Clock) : Nat := c.origin + c.elapsed

def moment (c : Clock) : Moment := .ofMilliseconds c.now

/-- The time of day in whole seconds. -/
def timeOfDay (c : Clock) : TimeOfDay :=
  let m := c.moment
  ⟨m.hour, m.minute, m.second, 0⟩

end Clock

end Runbook
