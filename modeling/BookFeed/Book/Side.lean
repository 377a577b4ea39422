import BookFeed.Decimal.Basic

set_option autoImplicit false

/-!
# The two sides of a book

Bids are offers to buy, asks are offers to sell. The best bid is the highest one, the best ask
the lowest one.

## Main definitions

* `BookFeed.Book.Side` — bid or ask.
* `BookFeed.Book.Side.compare` — the order of prices, better ones first.
* `BookFeed.Book.Side.ofName?` — the side of a name.
-/

namespace BookFeed.Book

/-- A side of a book. -/
inductive Side where
  /-- Offers to buy. -/
  | bid
  /-- Offers to sell. -/
  | ask
deriving DecidableEq, Repr

namespace Side

/-- The order of prices on a side: a better price is less. -/
def compare : Side → Decimal → Decimal → Ordering
  | .bid, a, b => b.compare a
  | .ask, a, b => a.compare b

/-- The side of a name. -/
def ofName? : String → Option Side
  | "bid" => some .bid
  | "ask" => some .ask
  | _ => none

end Side

end BookFeed.Book
