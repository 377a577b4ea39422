import BookFeed.Calendar.Rfc3339
import BookFeed.Json.Reader
import BookFeed.Json.Value
import BookFeed.Text.Blank

set_option autoImplicit false

/-!
# Timestamps

The server gives times as numbers of milliseconds, as such numbers in strings, or in RFC 3339
form. A time is kept as it was given.

## Main definitions

* `BookFeed.Seed.Timestamp` — a time as it was given.
* `BookFeed.Seed.Timestamp.millis?` — the milliseconds since 1970-01-01 in UTC.
* `BookFeed.Seed.Timestamp.read`, `BookFeed.Seed.Timestamp.value` — reading and writing.
-/

namespace BookFeed.Seed

open Json

/-- A time as it was given. -/
inductive Timestamp where
  /-- Milliseconds. -/
  | millis (n : Int)
  /-- A text. -/
  | text (s : String)
deriving DecidableEq, Repr

namespace Timestamp

/-- A whole number of 64 bits with an optional sign, in decimal digits. -/
def readInteger (cs : List Char) : Option Int :=
  let (negative, ds) := match cs with
    | '-' :: r => (true, r)
    | '+' :: r => (false, r)
    | r => (false, r)
  if ds.isEmpty ∨ !ds.all Calendar.isDigit then none
  else
    let n : Int := if negative then -(Calendar.digitsValue ds : Int) else Calendar.digitsValue ds
    if -9223372036854775808 ≤ n ∧ n < 9223372036854775808 then some n else none

/-- The milliseconds of a text in RFC 3339 form; what is left of a millisecond is cut off toward
1970. -/
def instantMillis (cs : List Char) : Option Int := do
  let m ← Calendar.Moment.parse? cs
  let n ← m.nanoseconds?
  return n.tdiv 1000000

/-- The milliseconds of a text: a number first, then an instant. White space around it does not
matter. -/
def textMillis (s : String) : Option Int :=
  let cs := Text.trim s.toList
  readInteger cs <|> instantMillis cs

/-- The milliseconds since 1970-01-01 in UTC, if the time is understood. -/
def millis? : Timestamp → Option Int
  | .millis n => some n
  | .text s => textMillis s

/-- Read a time, with `depth` containers around it. -/
def read (depth : Nat) : Reader Timestamp :=
  Reader.firstOf "Timestamp" depth
    [fun n => (Reader.integer n).map .millis, fun n => (Reader.string n).map .text]

/-- A time as it was given. -/
def value : Timestamp → Value
  | .millis n => .integer n
  | .text s => .ofString s

end Timestamp

end BookFeed.Seed
