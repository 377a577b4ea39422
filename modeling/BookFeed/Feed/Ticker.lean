import BookFeed.Json.Decimals
import BookFeed.Json.Record

set_option autoImplicit false

/-!
# Figures of a market

A ticker message carries some of the figures of a market; figures that it leaves out stay as
they were.

## Main definitions

* `BookFeed.Feed.Ticker` — the figures, each of them optional.
* `BookFeed.Feed.Ticker.merge` — figures after a message.
* `BookFeed.Feed.Ticker.read`, `BookFeed.Feed.Ticker.value` — figures as an object.
-/

namespace BookFeed.Feed

open Json

/-- Figures of a market. -/
structure Ticker where
  /-- The price of the last trade. -/
  lastPrice : Option Decimal := none
  /-- The highest price of the day. -/
  high : Option Decimal := none
  /-- The lowest price of the day. -/
  low : Option Decimal := none
  /-- The quantity traded. -/
  volume : Option Decimal := none
  /-- The amount paid. -/
  quoteVolume : Option Decimal := none
  /-- The market's own name for itself. -/
  symbol : Option String := none
deriving DecidableEq, Repr, Inhabited

namespace Ticker

/-- The figures `t` after a message with the figures `u`. -/
def merge (t u : Ticker) : Ticker where
  lastPrice := u.lastPrice <|> t.lastPrice
  high := u.high <|> t.high
  low := u.low <|> t.low
  volume := u.volume <|> t.volume
  quoteVolume := u.quoteVolume <|> t.quoteVolume
  symbol := u.symbol <|> t.symbol

/-- An optional decimal. -/
def readFigure : Reader (Option Decimal) := Reader.optional Reader.decimal

/-- How figures are made up; each has a one-letter name too. -/
def record : Record Ticker where
  name := "Ticker"
  fields :=
    [(Member.of "lastPrice" (fun x t => { t with lastPrice := x }) readFigure).orNamed ["c"],
     (Member.of "high" (fun x t => { t with high := x }) readFigure).orNamed ["h"],
     (Member.of "low" (fun x t => { t with low := x }) readFigure).orNamed ["l"],
     (Member.of "volume" (fun x t => { t with volume := x }) readFigure).orNamed ["v"],
     (Member.of "quoteVolume" (fun x t => { t with quoteVolume := x }) readFigure).orNamed ["V"],
     (Member.of "symbol" (fun x t => { t with symbol := x })
        (Reader.optional Reader.string)).orNamed ["s"]]
  initial := {}

/-- Read figures. -/
def read : Reader Ticker := record.read

/-- An optional decimal. -/
def figure (x : Option Decimal) : Value := .ofOption .ofDecimal x

/-- Figures as an object; those that are absent are `null`. -/
def value (t : Ticker) : Value :=
  .object
    [("lastPrice".toList, figure t.lastPrice),
     ("high".toList, figure t.high),
     ("low".toList, figure t.low),
     ("volume".toList, figure t.volume),
     ("quoteVolume".toList, figure t.quoteVolume),
     ("symbol".toList, .ofOption .ofString t.symbol)]

end Ticker

end BookFeed.Feed
