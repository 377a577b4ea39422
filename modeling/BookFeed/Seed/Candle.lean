import BookFeed.Json.Decimals
import BookFeed.Json.Record
import BookFeed.Seed.Timestamp

set_option autoImplicit false

/-!
# Candles

A candle sums up the trades of one interval. The server lists candles in an array; here they are
put in order, the latest one last.

## Main definitions

* `BookFeed.Seed.Candle` — a candle.
* `BookFeed.Seed.Candle.readList` — reading a list.
* `BookFeed.Seed.Candle.latestLast` — the order by time.
-/

namespace BookFeed.Seed

open Json

/-- The prices of the trades of one interval. -/
structure Candle where
  /-- The first price. -/
  opening : Decimal
  /-- The highest price. -/
  high : Decimal
  /-- The lowest price. -/
  low : Decimal
  /-- The last price. -/
  close : Decimal
  /-- The quantity traded. -/
  volume : Option Decimal := none
  /-- The amount paid. -/
  quoteVolume : Option Decimal := none
  /-- The start of the interval. -/
  start : Option Timestamp := none
  /-- The end of the interval. -/
  finish : Option Timestamp := none
deriving DecidableEq, Repr

namespace Candle

/-- The end of the interval in milliseconds, if it is given and understood. -/
def millis? (c : Candle) : Option Int := c.finish.bind Timestamp.millis?

/-- How a candle is made up, with `depth` containers around it. -/
def record (depth : Nat) : Record Candle where
  name := "Kline"
  fields :=
    [(Member.of "open" (fun x c => { c with opening := x }) Reader.decimal).demanded,
     (Member.of "high" (fun x c => { c with high := x }) Reader.decimal).demanded,
     (Member.of "low" (fun x c => { c with low := x }) Reader.decimal).demanded,
     (Member.of "close" (fun x c => { c with close := x }) Reader.decimal).demanded,
     Member.of "volume" (fun x c => { c with volume := x }) (Reader.optional Reader.decimal),
     Member.of "quoteVolume" (fun x c => { c with quoteVolume := x })
        (Reader.optional Reader.decimal),
     Member.of "start" (fun x c => { c with start := x })
        (Reader.optional (Timestamp.read (depth + 1))),
     (Member.of "end" (fun x c => { c with finish := x })
        (Reader.optional (Timestamp.read (depth + 1)))).orNamed ["bucket"]]
  initial := ⟨.zero, .zero, .zero, .zero, none, none, none, none⟩

/-- Read a candle, with `depth` containers around it. -/
def read (depth : Nat) : Reader Candle := (record depth).read

/-- A candle as an object; what is absent is `null`. -/
def value (c : Candle) : Value :=
  .object
    [("open".toList, .ofDecimal c.opening),
     ("high".toList, .ofDecimal c.high),
     ("low".toList, .ofDecimal c.low),
     ("close".toList, .ofDecimal c.close),
     ("volume".toList, .ofOption .ofDecimal c.volume),
     ("quoteVolume".toList, .ofOption .ofDecimal c.quoteVolume),
     ("start".toList, .ofOption Timestamp.value c.start),
     ("end".toList, .ofOption Timestamp.value c.finish)]

/-- Read a list of candles. -/
def readList : Reader (List Candle) := Reader.list (read 1)

/-- Whether a candle may stand before another one: the earlier end comes first, and before all
of them those without an end. -/
def notAfter (a b : Candle) : Bool :=
  match a.millis?, b.millis? with
  | none, _ => true
  | some _, none => false
  | some x, some y => x ≤ y

/-- The order by time, latest last; the list's own order decides between equal ends. -/
def latestLast (cs : List Candle) : List Candle := cs.mergeSort notAfter

end Candle

end BookFeed.Seed
