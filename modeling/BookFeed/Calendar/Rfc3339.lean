import BookFeed.Calendar.Date
import BookFeed.Power

set_option autoImplicit false

/-!
# Instants in RFC 3339 form

The form is `2025-01-31T12:00:00.5+01:00`: any ASCII character may stand between date and time,
the fraction may be missing and may have any number of digits, of which nine count, and `Z`
stands for the offset zero. A leap second is allowed where there can be one, at the end of a
month in UTC, and stands for the last nanosecond before it.

## Main definitions

* `BookFeed.Calendar.Moment` — the parts of such a text.
* `BookFeed.Calendar.Moment.parse?` — reading the parts.
* `BookFeed.Calendar.Moment.nanoseconds?` — the nanoseconds since 1970-01-01 in UTC.
-/

namespace BookFeed.Calendar

/-- The parts of a text. -/
structure Moment where
  /-- The year. -/
  year : Nat
  /-- The month. -/
  month : Nat
  /-- The day of the month. -/
  day : Nat
  /-- The hour of the day. -/
  hour : Nat
  /-- The minute of the hour. -/
  minute : Nat
  /-- The second of the minute. -/
  second : Nat
  /-- The digits of the fraction. -/
  fraction : List Char
  /-- How many minutes the clock is ahead of UTC. -/
  offset : Int
deriving DecidableEq, Repr

/-! ### Reading -/

/-- Whether a character is a decimal digit. -/
def isDigit (c : Char) : Bool := '0' ≤ c && c ≤ '9'

/-- The value of a row of decimal digits. -/
def digitsValue (ds : List Char) : Nat :=
  ds.foldl (fun n c => 10 * n + (c.toNat - '0'.toNat)) 0

/-- Read exactly `n` digits. -/
def readDigits (n : Nat) (cs : List Char) : Option (Nat × List Char) :=
  let ds := cs.take n
  if ds.length = n ∧ ds.all isDigit then some (digitsValue ds, cs.drop n) else none

/-- Read one given character. -/
def readMark (mark : Char) : List Char → Option (List Char)
  | c :: cs => if c = mark then some cs else none
  | [] => none

/-- Read the character between date and time. -/
def readSeparator : List Char → Option (List Char)
  | c :: cs => if c.toNat < 0x80 then some cs else none
  | [] => none

/-- Read the fraction of a second: a point and at least one digit, or nothing. -/
def readFraction : List Char → Option (List Char × List Char)
  | '.' :: cs =>
    let ds := cs.takeWhile isDigit
    if ds.isEmpty then none else some (ds, cs.dropWhile isDigit)
  | cs => some ([], cs)

/-- Read the offset, in minutes. -/
def readOffset : List Char → Option (Int × List Char)
  | [] => none
  | c :: cs =>
    if c = 'Z' ∨ c = 'z' then some (0, cs)
    else if c = '+' ∨ c = '-' then do
      let (hours, cs) ← readDigits 2 cs
      let cs ← readMark ':' cs
      let (minutes, cs) ← readDigits 2 cs
      if hours ≤ 23 ∧ minutes ≤ 59 then
        let n : Int := 60 * hours + minutes
        return (if c = '-' then -n else n, cs)
      else none
    else none

namespace Moment

/-- Read the parts of a text. -/
def parse? (cs : List Char) : Option Moment := do
  let (year, cs) ← readDigits 4 cs
  let cs ← readMark '-' cs
  let (month, cs) ← readDigits 2 cs
  let cs ← readMark '-' cs
  let (day, cs) ← readDigits 2 cs
  let cs ← readSeparator cs
  let (hour, cs) ← readDigits 2 cs
  let cs ← readMark ':' cs
  let (minute, cs) ← readDigits 2 cs
  let cs ← readMark ':' cs
  let (second, cs) ← readDigits 2 cs
  let (fraction, cs) ← readFraction cs
  let (offset, cs) ← readOffset cs
  if cs.isEmpty then return ⟨year, month, day, hour, minute, second, fraction, offset⟩ else none

/-! ### Counting -/

/-- How many nanoseconds a second has. -/
def nanosPerSecond : Nat := 1000000000

/-- The fraction in nanoseconds; digits behind the ninth do not count. -/
def fractionNanos (ds : List Char) : Nat :=
  let ds := ds.take 9
  digitsValue ds * tenPow (9 - ds.length)

/-- Whether the second is a leap second. -/
def isLeapSecond (m : Moment) : Bool := m.second == 60

/-- The seconds since the start of the day, on the clock of the text; of a leap second the
second before it. -/
def clockSeconds (m : Moment) : Nat := 3600 * m.hour + 60 * m.minute + min m.second 59

/-- The seconds since the start of the day of the text, on the clock of UTC. -/
def utcSeconds (m : Moment) : Int := m.clockSeconds - 60 * m.offset

/-- The nanoseconds within the second. -/
def nanos (m : Moment) : Nat :=
  if m.isLeapSecond then nanosPerSecond - 1 else fractionNanos m.fraction

/-- Whether there can be a leap second here: it is the last second of a month in UTC. -/
def admitsLeapSecond (m : Moment) (d : Date) : Bool :=
  m.utcSeconds % 86400 == 86399 && d.endsMonthAfter (m.utcSeconds / 86400)

/-- The nanoseconds since 1970-01-01 in UTC, if the parts denote an instant. -/
def nanoseconds? (m : Moment) : Option Int := do
  let d ← Date.ofParts? m.year m.month m.day
  if m.hour ≤ 23 ∧ m.minute ≤ 59 ∧ m.second ≤ 60 ∧
    (m.isLeapSecond → m.admitsLeapSecond d) then
    return (86400 * d.dayNumber + m.utcSeconds) * nanosPerSecond + m.nanos
  else none

end Moment

end BookFeed.Calendar
