import Runbook.Clock
/-! Formats of dates and times: text with a per cent sign before each letter that stands for a
part of the date, and between the two possibly a sign for the padding of a number. A format
with an unknown letter is no format. -/
namespace Runbook.TimeFormat

/-- What a number is filled up with. -/
inductive Padding where
  | none
  | zeros
  | blanks
  deriving DecidableEq, Repr

def padded (p : Padding) (width n : Nat) : List Char :=
  let digits := Nat.toDigits 10 n
  match p with
  | .none => digits
  | .zeros => List.replicate (width - digits.length) '0' ++ digits
  | .blanks => List.replicate (width - digits.length) ' ' ++ digits

def weekdays : List String :=
  ["Monday", "Tuesday", "Wednesday", "Thursday", "Friday", "Saturday", "Sunday"]

def months : List String :=
  ["January", "February", "March", "April", "May", "June", "July", "August", "September",
    "October", "November", "December"]

def hour12 (hour : Nat) : Nat := (hour + 11) % 12 + 1

/-- The letters that stand for numbers, with their usual padding and width. -/
def number? (m : Moment) (c : Char) : Option (Padding × Nat × Nat) :=
  match c with
  | 'Y' => some (.zeros, 4, m.year)
  | 'C' => some (.zeros, 2, m.year / 100)
  | 'y' => some (.zeros, 2, m.year % 100)
  | 'G' => some (.zeros, 4, m.isoWeek.1)
  | 'g' => some (.zeros, 2, m.isoWeek.1 % 100)
  | 'q' => some (.none, 1, (m.month + 2) / 3)
  | 'm' => some (.zeros, 2, m.month)
  | 'd' => some (.zeros, 2, m.day)
  | 'e' => some (.blanks, 2, m.day)
  | 'j' => some (.zeros, 3, m.ordinal)
  | 'U' => some (.zeros, 2, m.weekFrom 6)
  | 'W' => some (.zeros, 2, m.weekFrom 0)
  | 'V' => some (.zeros, 2, m.isoWeek.2)
  | 'u' => some (.none, 1, m.weekday + 1)
  | 'w' => some (.none, 1, (m.weekday + 1) % 7)
  | 'H' => some (.zeros, 2, m.hour)
  | 'k' => some (.blanks, 2, m.hour)
  | 'I' => some (.zeros, 2, hour12 m.hour)
  | 'l' => some (.blanks, 2, hour12 m.hour)
  | 'M' => some (.zeros, 2, m.minute)
  | 'S' => some (.zeros, 2, m.second)
  | 'f' => some (.zeros, 9, m.millisecond * 1000000)
  | 's' =>
    some (.none, 1, m.dayNumber * 86400 + (m.hour * 60 + m.minute) * 60 + m.second)
  | _ => none

/-- The letters that stand for words, and for the distance from universal time. -/
def word? (m : Moment) (c : Char) : Option String :=
  match c with
  | 'A' => some (weekdays.getD m.weekday "")
  | 'a' => some (String.ofList ((weekdays.getD m.weekday "").toList.take 3))
  | 'B' => some (months.getD (m.month - 1) "")
  | 'b' | 'h' => some (String.ofList ((months.getD (m.month - 1) "").toList.take 3))
  | 'p' => some (if m.hour < 12 then "AM" else "PM")
  | 'P' => some (if m.hour < 12 then "am" else "pm")
  | 'Z' => some "+00:00"
  | 'z' => some "+0000"
  | 'n' => some "\n"
  | 't' => some "\t"
  | '%' => some "%"
  | _ => none

/-- The letters that stand for a whole format of other letters. -/
def compound? (c : Char) : Option String :=
  match c with
  | 'D' | 'x' => some "%m/%d/%y"
  | 'F' => some "%Y-%m-%d"
  | 'R' => some "%H:%M"
  | 'T' | 'X' => some "%H:%M:%S"
  | 'c' => some "%a %b %e %H:%M:%S %Y"
  | 'r' => some "%I:%M:%S %p"
  | 'v' => some "%e-%b-%Y"
  | '+' => some "%Y-%m-%dT%H:%M:%S%.f%:z"
  | _ => none

/-- So many digits of the fraction of the second. -/
def fraction (m : Moment) (places : Nat) : List Char :=
  (padded .zeros 9 (m.millisecond * 1000000)).take places

/-- What stands behind a per cent sign and takes more than one letter, and the rest. -/
def long? (m : Moment) (s : List Char) : Option (List Char × List Char) :=
  match s with
  | ':' :: ':' :: ':' :: 'z' :: rest => some ("+00".toList, rest)
  | ':' :: ':' :: 'z' :: rest => some ("+00:00:00".toList, rest)
  | ':' :: 'z' :: rest => some ("+00:00".toList, rest)
  | '#' :: 'z' :: rest => some ("+00".toList, rest)
  | '.' :: 'f' :: rest =>
    some (if m.millisecond = 0 then [] else '.' :: fraction m 3, rest)
  | '.' :: '3' :: 'f' :: rest => some ('.' :: fraction m 3, rest)
  | '.' :: '6' :: 'f' :: rest => some ('.' :: fraction m 6, rest)
  | '.' :: '9' :: 'f' :: rest => some ('.' :: fraction m 9, rest)
  | '3' :: 'f' :: rest => some (fraction m 3, rest)
  | '6' :: 'f' :: rest => some (fraction m 6, rest)
  | '9' :: 'f' :: rest => some (fraction m 9, rest)
  | _ => none

def padding? (c : Char) : Option Padding :=
  match c with
  | '-' => some .none
  | '0' => some .zeros
  | '_' => some .blanks
  | _ => none

/-- The text of a moment. A compound letter is replaced by its format; `bound` is at least the
number of characters that are looked at. -/
def write? (m : Moment) (s : List Char) : Nat → Option (List Char)
  | 0 => none
  | bound + 1 =>
    match s with
    | [] => some []
    | '%' :: rest =>
      match long? m rest, rest with
      | some (text, after), _ => (write? m after bound).map (text ++ ·)
      | none, [] => none
      | none, c :: after =>
        match padding? c, after with
        | some p, d :: after =>
          (number? m d).bind fun (_, width, n) =>
            (write? m after bound).map (padded p width n ++ ·)
        | some _, [] => none
        | none, _ =>
          match number? m c, word? m c, compound? c with
          | some (p, width, n), _, _ => (write? m after bound).map (padded p width n ++ ·)
          | none, some text, _ => (write? m after bound).map (text.toList ++ ·)
          | none, none, some format => write? m (format.toList ++ after) bound
          | none, none, none => none
    | c :: rest => (write? m rest bound).map (c :: ·)

/-- No format that a letter stands for has more than 24 characters. -/
def format? (m : Moment) (format : String) : Option String :=
  (write? m format.toList (24 * format.length + 1)).map String.ofList

end Runbook.TimeFormat
