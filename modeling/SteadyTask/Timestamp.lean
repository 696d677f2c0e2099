import SteadyTask.Decimal.Notation
import SteadyTask.Decimal.Reading
import SteadyTask.Time

/-!
# Points in calendar time

A timestamp is a second since the start of 1970 in universal time, and a part of it.  It is read
from and written in the profile of RFC 3339; in writing the fraction has 0, 3, 6 or 9 digits, the
fewest that lose nothing.  A leap second, numbered 60, may follow any minute.  It does not count
among the seconds since 1970 but lengthens the second before it.
-/

namespace SteadyTask

/-- A point in time. -/
structure Timestamp where
  /-- Seconds since the start of 1970. -/
  seconds : Int
  /-- Nanoseconds since the start of the second; from the thousand millionth on they lie in a leap
  second. -/
  nanos : Nat
  deriving Repr, DecidableEq, Inhabited

namespace Timestamp

/-- A day of the calendar. -/
structure Day where
  year : Int
  month : Nat
  day : Nat
  deriving Repr, DecidableEq

/-- Days from the start of 1970 to a day.  Years are counted from March, in eras of 400. -/
def dayNumber (d : Day) : Int :=
  let year := if d.month ≤ 2 then d.year - 1 else d.year
  let era := Int.fdiv year 400
  let yearOfEra := (year - era * 400).toNat
  let monthFromMarch := if d.month > 2 then d.month - 3 else d.month + 9
  let dayOfYear := (153 * monthFromMarch + 2) / 5 + (d.day - 1)
  let dayOfEra := yearOfEra * 365 + yearOfEra / 4 - yearOfEra / 100 + dayOfYear
  era * 146097 + dayOfEra - 719468

/-- The day that lies so many days after the start of 1970. -/
def ofDayNumber (n : Int) : Day :=
  let shifted := n + 719468
  let era := Int.fdiv shifted 146097
  let dayOfEra := (shifted - era * 146097).toNat
  let yearOfEra := (dayOfEra - dayOfEra / 1460 + dayOfEra / 36524 - dayOfEra / 146096) / 365
  let dayOfYear := dayOfEra - (365 * yearOfEra + yearOfEra / 4 - yearOfEra / 100)
  let monthFromMarch := (5 * dayOfYear + 2) / 153
  let day := dayOfYear - (153 * monthFromMarch + 2) / 5 + 1
  let month := if monthFromMarch < 10 then monthFromMarch + 3 else monthFromMarch - 9
  let year := era * 400 + yearOfEra
  ⟨if month ≤ 2 then year + 1 else year, month, day⟩

/-- Whether a year has a 29th of February. -/
def isLeapYear (year : Int) : Bool :=
  year % 4 == 0 && (year % 100 != 0 || year % 400 == 0)

/-- How many days a month has. -/
def daysInMonth (year : Int) (month : Nat) : Nat :=
  if month = 2 then (if isLeapYear year then 29 else 28)
  else if month = 4 ∨ month = 6 ∨ month = 9 ∨ month = 11 then 30
  else 31

/-- The nanoseconds of a second. -/
def nanosPerSecond : Nat := 1000000000

/-- The point in time that lies nanoseconds after the start of 1970. -/
def ofNanos (nanos : Int) : Timestamp :=
  let seconds := Int.fdiv nanos nanosPerSecond
  ⟨seconds, (nanos - seconds * nanosPerSecond).toNat⟩

/-- The point in time that lies milliseconds later. -/
def later (t : Timestamp) (duration : Millis) : Timestamp :=
  ofNanos (t.seconds * nanosPerSecond + t.nanos + duration * 1000000)

/-- Whether a point in time lies in a leap second. -/
def inLeapSecond (t : Timestamp) : Bool :=
  nanosPerSecond ≤ t.nanos

/-- A number with at least so many digits. -/
def padded (width n : Nat) : String :=
  let digits := Decimal.digitText n
  Decimal.zeros (width - digits.length) ++ digits

/-- The fraction of a second. -/
def fractionText (nanos : Nat) : String :=
  if nanos = 0 then ""
  else if nanos % 1000000 = 0 then "." ++ padded 3 (nanos / 1000000)
  else if nanos % 1000 = 0 then "." ++ padded 6 (nanos / 1000)
  else "." ++ padded 9 nanos

/-- The number of a year, with a sign unless it has four digits. -/
def yearText (year : Int) : String :=
  (if year < 0 then "-" else if year > 9999 then "+" else "") ++ padded 4 year.natAbs

/-- A timestamp in universal time. -/
def text (t : Timestamp) : String :=
  let days := Int.fdiv t.seconds 86400
  let secondOfDay := (t.seconds - days * 86400).toNat
  let d := ofDayNumber days
  let second := secondOfDay % 60 + if t.inLeapSecond then 1 else 0
  yearText d.year ++ "-" ++ padded 2 d.month ++ "-" ++ padded 2 d.day ++ "T" ++
    padded 2 (secondOfDay / 3600) ++ ":" ++ padded 2 (secondOfDay / 60 % 60) ++ ":" ++
    padded 2 second ++ fractionText (t.nanos % nanosPerSecond) ++ "Z"

/-- Takes a number of exactly so many digits from the front. -/
def takeDigits? (count : Nat) (cs : List Char) : Option (Nat × List Char) :=
  let digits := cs.take count
  if digits.length = count ∧ digits.all Decimal.isDigit then
    some (Decimal.digitsValue digits, cs.drop count)
  else none

/-- Takes one of some characters from the front. -/
def takeOne? (choices : List Char) : List Char → Option (List Char)
  | c :: rest => if choices.contains c then some rest else none
  | [] => none

/-- Takes a fraction from the front, in nanoseconds; it has a digit at least, and its places beyond
the ninth are cut. -/
def takeFraction? (cs : List Char) : Option (Nat × List Char) :=
  match cs with
  | '.' :: rest =>
    let (digits, rest) := Decimal.leadingDigits rest
    let nine := digits.take 9
    if nine.isEmpty then none
    else some (Decimal.digitsValue nine * Nat.pow 10 (9 - nine.length), rest)
  | rest => some (0, rest)

/-- Reads an offset from universal time, in seconds, which takes up all that is left.  The sign of
a negative one is a hyphen or the minus sign. -/
def readOffset? : List Char → Option Int
  | ['Z'] => some 0
  | ['z'] => some 0
  | sign :: rest => do
    let (hours, rest) ← takeDigits? 2 rest
    let rest ← takeOne? [':'] rest
    let (minutes, rest) ← takeDigits? 2 rest
    if !rest.isEmpty || hours > 23 || minutes > 59 then none
    else if sign = '+' then some (hours * 3600 + minutes * 60 : Nat)
    else if sign = '-' || sign = '−' then some (-(hours * 3600 + minutes * 60 : Nat))
    else none
  | [] => none

/-- Reads a timestamp. -/
def ofText? (s : String) : Option Timestamp := do
  let (year, cs) ← takeDigits? 4 s.toList
  let (month, cs) ← takeDigits? 2 (← takeOne? ['-'] cs)
  let (day, cs) ← takeDigits? 2 (← takeOne? ['-'] cs)
  let (hour, cs) ← takeDigits? 2 (← takeOne? ['T', 't', ' '] cs)
  let (minute, cs) ← takeDigits? 2 (← takeOne? [':'] cs)
  let (second, cs) ← takeDigits? 2 (← takeOne? [':'] cs)
  let (nanos, cs) ← takeFraction? cs
  let offset ← readOffset? cs
  if month = 0 ∨ month > 12 ∨ day = 0 ∨ day > daysInMonth year month ∨ hour > 23 ∨ minute > 59 ∨
      second > 60 then none
  else
    let counted := min second 59
    let seconds := dayNumber ⟨year, month, day⟩ * 86400 +
      (hour * 3600 + minute * 60 + counted : Nat)
    some ⟨seconds - offset, (second - counted) * nanosPerSecond + nanos⟩

end Timestamp

end SteadyTask
