import BookFeed.Book.Level
import BookFeed.Decimal.Arith
import BookFeed.Json.Record

set_option autoImplicit false

/-!
# Depth

The depth of a market is its two lists of levels. The figures drawn from it look at the first
level of each side, which is the best one where the sides are in order.

## Main definitions

* `BookFeed.Book.Depth` — bids and asks.
* `BookFeed.Book.Depth.bestBid`, `bestAsk`, `spread`, `midPrice`, `isCrossed`, `bidLiquidity`,
  `askLiquidity` — figures.
* `BookFeed.Book.Depth.read`, `BookFeed.Book.Depth.value` — depth as an object.
-/

namespace BookFeed.Book

open Json

/-- Bids and asks. -/
structure Depth where
  /-- The offers to buy. -/
  bids : List Level := []
  /-- The offers to sell. -/
  asks : List Level := []
deriving DecidableEq, Repr, Inhabited

/-- The operation whose result does not fit a decimal. -/
inductive Overflow where
  /-- A sum. -/
  | addition
  /-- A difference. -/
  | subtraction
  /-- A quotient. -/
  | division
deriving DecidableEq, Repr

/-- The wording of an overflow. -/
def Overflow.message : Overflow → String
  | .addition => "Addition overflowed"
  | .subtraction => "Subtraction overflowed"
  | .division => "Division overflowed"

/-- A result that may be missing for want of room. -/
def Overflow.orElse (o : Overflow) (d : Option Decimal) : Except Overflow Decimal :=
  match d with
  | some d => .ok d
  | none => .error o

namespace Depth

/-! ### Figures -/

/-- The price of the first bid. -/
def bestBid (d : Depth) : Option Decimal := d.bids.head?.map (·.price)

/-- The price of the first ask. -/
def bestAsk (d : Depth) : Option Decimal := d.asks.head?.map (·.price)

/-- Both best prices, if there are two. -/
def bests (d : Depth) : Option (Decimal × Decimal) := do
  return (← d.bestBid, ← d.bestAsk)

/-- The best ask less the best bid. -/
def spread (d : Depth) : Option (Except Overflow Decimal) :=
  d.bests.map fun (bid, ask) => Overflow.subtraction.orElse (ask.sub bid)

/-- The middle between the two best prices. -/
def midPrice (d : Depth) : Option (Except Overflow Decimal) :=
  d.bests.map fun (bid, ask) => do
    let total ← Overflow.addition.orElse (bid.add ask)
    Overflow.division.orElse total.half

/-- Whether the best ask is below the best bid. -/
def isCrossed (d : Depth) : Bool :=
  match d.bests with
  | some (bid, ask) => ask.compare bid == .lt
  | none => false

/-- The sum of all quantities of a list of levels. -/
def liquidity (levels : List Level) : Except Overflow Decimal :=
  Overflow.addition.orElse (Decimal.sum (levels.map (·.quantity)))

/-- The sum of all bid quantities. -/
def bidLiquidity (d : Depth) : Except Overflow Decimal := liquidity d.bids

/-- The sum of all ask quantities. -/
def askLiquidity (d : Depth) : Except Overflow Decimal := liquidity d.asks

/-- Whether there is no level at all. -/
def isEmpty (d : Depth) : Bool := d.bids.isEmpty && d.asks.isEmpty

/-! ### Reading and writing -/

/-- A list of levels as an array. -/
def levelsValue (levels : List Level) : Value := .array (levels.map Level.value)

/-- Depth as an object. -/
def value (d : Depth) : Value :=
  .object [("bids".toList, levelsValue d.bids), ("asks".toList, levelsValue d.asks)]

/-- The field of the bids. -/
def bidsField : Member Depth :=
  .of "bids" (fun ls d => { d with bids := ls }) (Reader.list Level.read)

/-- The field of the asks. -/
def asksField : Member Depth :=
  .of "asks" (fun ls d => { d with asks := ls }) (Reader.list Level.read)

/-- Depth as it is read back: both sides are there. -/
def record : Record Depth where
  name := "DepthSnapshot"
  fields := [bidsField.demanded, asksField.demanded]
  initial := {}

/-- Read depth from an object. -/
def read : Reader Depth := record.read

end Depth

end BookFeed.Book
