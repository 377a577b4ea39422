import BookFeed.Json.Decimals
import BookFeed.Json.Record

set_option autoImplicit false

/-!
# Reports of trades

A trade message reports one trade. All it says is optional.

## Main definitions

* `BookFeed.Feed.TradeReport` — the report.
* `BookFeed.Feed.TradeReport.read`, `BookFeed.Feed.TradeReport.value` — a report as an object.
-/

namespace BookFeed.Feed

open Json

/-- A report of one trade. -/
structure TradeReport where
  /-- The name of the trade. -/
  tradeId : Option String := none
  /-- The market. -/
  symbol : Option String := none
  /-- Who took the offer. -/
  side : Option String := none
  /-- The price. -/
  price : Option Decimal := none
  /-- The quantity. -/
  quantity : Option Decimal := none
  /-- The time in milliseconds. -/
  timestamp : Option Int := none
deriving DecidableEq, Repr, Inhabited

namespace TradeReport

/-- An optional string. -/
def readName : Reader (Option String) := Reader.optional Reader.string

/-- An optional decimal. -/
def readFigure : Reader (Option Decimal) := Reader.optional Reader.decimal

/-- How a report is made up. -/
def record : Record TradeReport where
  name := "TradeUpdate"
  fields :=
    [Member.of "tradeId" (fun x t => { t with tradeId := x }) readName,
     Member.of "symbol" (fun x t => { t with symbol := x }) readName,
     Member.of "side" (fun x t => { t with side := x }) readName,
     Member.of "price" (fun x t => { t with price := x }) readFigure,
     Member.of "quantity" (fun x t => { t with quantity := x }) readFigure,
     Member.of "timestamp" (fun x t => { t with timestamp := x })
       (Reader.optional Reader.integer)]
  initial := {}

/-- Read a report. -/
def read : Reader TradeReport := record.read

/-- A report as an object; what is absent is `null`. -/
def value (t : TradeReport) : Value :=
  .object
    [("tradeId".toList, .ofOption .ofString t.tradeId),
     ("symbol".toList, .ofOption .ofString t.symbol),
     ("side".toList, .ofOption .ofString t.side),
     ("price".toList, .ofOption .ofDecimal t.price),
     ("quantity".toList, .ofOption .ofDecimal t.quantity),
     ("timestamp".toList, .ofOption .integer t.timestamp)]

end TradeReport

end BookFeed.Feed
