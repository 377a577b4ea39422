import BookFeed.Book.Depth
import BookFeed.Book.Side

set_option autoImplicit false

/-!
# Merging changes into a book

A side of a book is a list of levels in the order of `Side.compare`, each price at most once and
no quantity zero. A change puts a quantity at a price or clears the price. Prices are told apart
by their numbers, and a price that is held keeps its spelling. The same comes of one table by
number for both sides that is read out in reverse for bids; `BookFeed.Book.merge_eq_arrange`
proves it.

## Main definitions

* `BookFeed.Book.place`, `BookFeed.Book.clear`, `BookFeed.Book.change` — one change of a side.
* `BookFeed.Book.merge` — a batch of changes to a side.
* `BookFeed.Book.Depth.apply` — a batch of changes to both sides.
* `BookFeed.Book.Depth.normalize` — any two lists of levels as sides of a book.
-/

namespace BookFeed.Book

/-- Put a level in its place. Where the price is held already, only the quantity is replaced. -/
def place (side : Side) (l : Level) : List Level → List Level
  | [] => [l]
  | h :: hs =>
    match side.compare l.price h.price with
    | .lt => l :: h :: hs
    | .eq => { h with quantity := l.quantity } :: hs
    | .gt => h :: place side l hs

/-- Clear a price. -/
def clear (price : Decimal) (levels : List Level) : List Level :=
  levels.filter fun h => !h.price.same price

/-- Do one change. -/
def change (side : Side) (levels : List Level) (l : Level) : List Level :=
  if l.isRemoval then clear l.price levels else place side l levels

/-- Do a batch of changes to a list of levels, which need not be in order and may hold a price
more than once; its levels of quantity zero count for nothing. -/
def merge (side : Side) (previous incoming : List Level) : List Level :=
  incoming.foldl (change side) ((previous.filter (!·.isRemoval)).foldl (change side) [])

/-- Do a batch of changes to both sides. -/
def Depth.apply (d : Depth) (bids asks : List Level) : Depth :=
  ⟨merge .bid d.bids bids, merge .ask d.asks asks⟩

/-- Any two lists of levels as sides of a book. -/
def Depth.normalize (d : Depth) : Depth := Depth.apply {} d.bids d.asks

end BookFeed.Book
