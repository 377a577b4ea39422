set_option autoImplicit false

/-!
# Dates

Days of the Gregorian calendar, counted from 1970-01-01.

## Main definitions

* `BookFeed.Calendar.Date` — year, month and day.
* `BookFeed.Calendar.Date.ofParts?` — the date of three numbers, if there is one.
* `BookFeed.Calendar.Date.dayNumber` — the number of the day.
-/

namespace BookFeed.Calendar

/-- Whether a year has 366 days. -/
def isLeap (year : Nat) : Bool := year % 4 == 0 && (year % 100 != 0 || year % 400 == 0)

/-- How many days a month has. -/
def monthLength (year month : Nat) : Nat :=
  if month = 2 then (if isLeap year then 29 else 28)
  else if month = 4 ∨ month = 6 ∨ month = 9 ∨ month = 11 then 30
  else 31

/-- A date. -/
structure Date where
  /-- The year. -/
  year : Nat
  /-- The month, from 1. -/
  month : Nat
  /-- The day of the month, from 1. -/
  day : Nat
deriving DecidableEq, Repr

namespace Date

/-- The date of three numbers, if there is one. -/
def ofParts? (year month day : Nat) : Option Date :=
  if 1 ≤ month ∧ month ≤ 12 ∧ 1 ≤ day ∧ day ≤ monthLength year month then
    some ⟨year, month, day⟩
  else none

/-- How many days there are from the start of year 1 to that of a year. -/
def daysBeforeYear (year : Nat) : Int :=
  let y : Int := (year : Int) - 1
  365 * y + y / 4 - y / 100 + y / 400

/-- How many days of a year there are before a month. -/
def daysBeforeMonth (year month : Nat) : Nat :=
  (List.range (month - 1)).foldl (fun days m => days + monthLength year (m + 1)) 0

/-- The number of the day 1970-01-01, counted from the start of year 1. -/
def epoch : Int := daysBeforeYear 1970

/-- The number of the day, counted from 1970-01-01. -/
def dayNumber (d : Date) : Int :=
  daysBeforeYear d.year + daysBeforeMonth d.year d.month + (d.day - 1) - epoch

/-- Whether the day that is `shift` days later is the last of its month, for a shift of at most
one day to either side. -/
def endsMonthAfter (d : Date) (shift : Int) : Bool :=
  let day := (d.day : Int) + shift
  day == 0 || day == monthLength d.year d.month

end Date

end BookFeed.Calendar
