import BookFeed.Json.Decimals
import BookFeed.Json.Record
import BookFeed.Seed.Timestamp

set_option autoImplicit false

/-!
# Past trades

The server lists past trades in an array, or in an object with such an array as its member
`trades`. Here they are put in order, the most recent one first.

## Main definitions

* `BookFeed.Seed.Trade` — a past trade.
* `BookFeed.Seed.Trade.readList` — reading a list in either form.
* `BookFeed.Seed.Trade.recentFirst` — the order by time.
-/

namespace BookFeed.Seed

open Json

/-- A past trade. -/
structure Trade where
  /-- Its name. -/
  id : Option String := none
  /-- The price. -/
  price : Decimal
  /-- The quantity. -/
  quantity : Option Decimal := none
  /-- The time. -/
  timestamp : Option Timestamp := none
  /-- Whether the buyer's offer was in the book. -/
  isBuyerMaker : Option Bool := none
  /-- The market. -/
  market : Option String := none
deriving DecidableEq, Repr

namespace Trade

/-- The time in milliseconds, if it is given and understood. -/
def millis? (t : Trade) : Option Int := t.timestamp.bind Timestamp.millis?

/-- How a trade is made up, with `depth` containers around it. -/
def record (depth : Nat) : Record Trade where
  name := "Trade"
  fields :=
    [(Member.of "id" (fun x t => { t with id := x })
        (Reader.optional Reader.string)).orNamed ["tradeId"],
     (Member.of "price" (fun x t => { t with price := x }) Reader.decimal).demanded,
     (Member.of "quantity" (fun x t => { t with quantity := x })
        (Reader.optional Reader.decimal)).orNamed ["volume", "qty"],
     Member.of "timestamp" (fun x t => { t with timestamp := x })
        (Reader.optional (Timestamp.read (depth + 1))),
     (Member.of "is_buyer_maker" (fun x t => { t with isBuyerMaker := x })
        (Reader.optional Reader.boolean)).orNamed ["isBuyerMaker"],
     (Member.of "market" (fun x t => { t with market := x })
        (Reader.optional Reader.string)).orNamed ["symbol"]]
  initial := { price := .zero }

/-- Read a trade, with `depth` containers around it. -/
def read (depth : Nat) : Reader Trade := (record depth).read

/-- A trade as an object; what is absent is `null`. -/
def value (t : Trade) : Value :=
  .object
    [("id".toList, .ofOption .ofString t.id),
     ("price".toList, .ofDecimal t.price),
     ("quantity".toList, .ofOption .ofDecimal t.quantity),
     ("timestamp".toList, .ofOption Timestamp.value t.timestamp),
     ("is_buyer_maker".toList, .ofOption .bool t.isBuyerMaker),
     ("market".toList, .ofOption .ofString t.market)]

/-! ### Lists -/

/-- How an object with a list of trades is made up. -/
def wrapper : Record (List Trade) where
  name := "TradesResponse"
  fields := [(Member.of "trades" (fun ts _ => ts) (Reader.list (read 2))).demanded]
  initial := []

/-- Read a list of trades from an object. -/
def readWrapped : Reader (List Trade)
  | .object members fault => wrapper.readObject members fault
  | n => .error (n.mismatch "struct variant TradesResponse::Wrapped")

/-- Read a list of trades from an object or an array. -/
def readList : Reader (List Trade) :=
  Reader.firstOf "TradesResponse" 0 [readWrapped, Reader.list (read 1)]

/-- Whether a trade may stand before another one: the later time comes first, and trades without
a time come last. -/
def notAfter (a b : Trade) : Bool :=
  match a.millis?, b.millis? with
  | _, none => true
  | none, some _ => false
  | some x, some y => y ≤ x

/-- The order by time, most recent first; the list's own order decides between equal times. -/
def recentFirst (ts : List Trade) : List Trade := ts.mergeSort notAfter

end Trade

end BookFeed.Seed
