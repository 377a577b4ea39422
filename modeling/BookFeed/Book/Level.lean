import BookFeed.Json.Decimals
import BookFeed.Text.Blank

set_option autoImplicit false

/-!
# Price levels

A level is a price and the quantity offered at it. In a message about changes a quantity of zero
says that nothing is left at the price.

## Main definitions

* `BookFeed.Book.Level` — price and quantity.
* `BookFeed.Book.Level.isRemoval` — whether nothing is left at the price.
* `BookFeed.Book.Level.read`, `BookFeed.Book.Level.value` — a level as a pair of strings.
-/

namespace BookFeed.Book

open Json

/-- A price and the quantity offered at it. -/
structure Level where
  /-- The price. -/
  price : Decimal
  /-- The quantity. -/
  quantity : Decimal
deriving DecidableEq, Repr, Inhabited

namespace Level

/-- Whether nothing is left at the price. -/
def isRemoval (l : Level) : Bool := l.quantity.isZero

/-- Read a decimal with white space around it. -/
def readPart (s : String) : Except Error Decimal :=
  (Decimal.read (Text.trim s.toList)).mapError fun e => .rejected e.message

/-- Read a level from an array of two strings, the price first. Both strings and the end of the
array come before what they say. -/
def read : Reader Level := fun n => do
  let (price, quantity) ← Reader.pair Reader.string Reader.string n
  let p ← readPart price
  let q ← readPart quantity
  return ⟨p, q⟩

/-- A level as an array of two strings. -/
def value (l : Level) : Value := .array [.ofDecimal l.price, .ofDecimal l.quantity]

end Level

end BookFeed.Book
