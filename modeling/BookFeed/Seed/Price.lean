import BookFeed.Book.Depth
import BookFeed.Json.Decimals

set_option autoImplicit false

/-!
# Prices and depth from the server

## Main definitions

* `BookFeed.Seed.LatestPrice` — the price of the last trade.
* `BookFeed.Seed.readDepth` — the depth of a market as the server sends it.
-/

namespace BookFeed.Seed

open Json

/-! ### The latest price -/

/-- The price of the last trade. -/
structure LatestPrice where
  /-- The price. -/
  price : Decimal
  /-- The time, as it was given. -/
  time : Option String := none
deriving DecidableEq, Repr

namespace LatestPrice

/-- How a latest price is made up. -/
def record : Record LatestPrice where
  name := "LatestPrice"
  fields :=
    [(Member.of "price" (fun x p => { p with price := x }) Reader.decimal).demanded,
     Member.of "time" (fun x p => { p with time := x }) (Reader.optional Reader.string)]
  initial := { price := .zero }

/-- Read a latest price. -/
def read : Reader LatestPrice := record.read

/-- A latest price as an object. -/
def value (p : LatestPrice) : Value :=
  .object
    [("price".toList, .ofDecimal p.price), ("time".toList, .ofOption .ofString p.time)]

end LatestPrice

/-! ### Depth -/

/-- How depth inside an answer of the server is made up: a side may be absent. -/
def depthPayload : Record Book.Depth where
  name := "DepthPayload"
  fields := [Book.Depth.bidsField, Book.Depth.asksField]
  initial := {}

/-- How an answer of the server with depth in it is made up. -/
def depthAnswer : Record Book.Depth where
  name := "DepthResponse"
  fields := [(Member.of "payload" (fun d _ => d) depthPayload.read).demanded]
  initial := {}

/-- Read the depth in an answer of the server. The levels stay in the order of the answer. -/
def readDepth : Reader Book.Depth := depthAnswer.read

end BookFeed.Seed
