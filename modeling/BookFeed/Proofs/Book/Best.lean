import Mathlib.Data.List.Chain
import BookFeed.Proofs.Book.Replay

set_option autoImplicit false

/-!
# The best price heads a side

A reader of a book sees two lists of levels. What a reader can rely on is how neighbouring
levels compare, that prices differ as numbers, that something is left at each, and that the
first level of a side has its best price. All of it follows from the two lists being the sides
of a book.

## Main definitions

* `BookFeed.Book.Depth.Readable` — what a reader of a book can rely on.

## Main results

* `BookFeed.Book.head?_price_eq_some_iff` — the first price of a side is the one of least
  rank.
* `BookFeed.Book.Depth.IsBook.readable` — a reader can rely on any book.
-/

namespace BookFeed.Book

/-- The first price of a side is the one that no other price of the side is better than. -/
theorem head?_price_eq_some_iff {side : Side} {levels : List Level} (h : Ordered side levels)
    (p : Decimal) :
    levels.head?.map (·.price) = some p ↔
      (∃ l ∈ levels, l.price = p) ∧ ∀ l ∈ levels, side.rank p ≤ side.rank l.price := by
  cases levels with
  | nil => simp
  | cons x xs =>
    have hlt := (ordered_cons.1 h).1
    constructor
    · intro hp
      obtain rfl : x.price = p := by simpa using hp
      refine ⟨⟨x, by simp, rfl⟩, fun l hl => ?_⟩
      rcases List.mem_cons.1 hl with rfl | hl
      · exact le_rfl
      · exact (hlt l hl).le
    · rintro ⟨⟨l, hl, rfl⟩, hbest⟩
      rcases List.mem_cons.1 hl with rfl | hl
      · rfl
      · exact absurd (hlt l hl) (hbest x (by simp)).not_gt

/-- Prices of a side differ as numbers. -/
theorem Ordered.distinct {side : Side} {levels : List Level} (h : Ordered side levels) :
    levels.Pairwise fun a b => a.price.value ≠ b.price.value := by
  refine h.imp fun {a b} hab he => ?_
  rw [(side.compare_eq_eq_iff _ _).2 he] at hab
  exact absurd hab (by decide)

namespace Depth

/-- What a reader of a book can rely on. -/
structure Readable (d : Depth) : Prop where
  /-- On each side a level is strictly better than the next one. -/
  adjacent : ∀ side, (d.levels side).IsChain fun a b => side.compare a.price b.price = .lt
  /-- Bids go down. -/
  bids_descending : d.bids.IsChain fun a b => b.price.value < a.price.value
  /-- Asks go up. -/
  asks_ascending : d.asks.IsChain fun a b => a.price.value < b.price.value
  /-- No number is the price of two levels of a side. -/
  distinct : ∀ side, (d.levels side).Pairwise fun a b => a.price.value ≠ b.price.value
  /-- Something is left at each price. -/
  standing : ∀ side, ∀ l ∈ d.levels side, l.quantity.value ≠ 0
  /-- The best bid is the greatest bid price. -/
  bestBid_iff : ∀ p, d.bestBid = some p ↔
    (∃ l ∈ d.bids, l.price = p) ∧ ∀ l ∈ d.bids, l.price.value ≤ p.value
  /-- The best ask is the least ask price. -/
  bestAsk_iff : ∀ p, d.bestAsk = some p ↔
    (∃ l ∈ d.asks, l.price = p) ∧ ∀ l ∈ d.asks, p.value ≤ l.price.value

/-- A reader can rely on any book. -/
theorem IsBook.readable {d : Depth} (h : d.IsBook) : d.Readable where
  adjacent side := (h.isSide side).ordered.isChain
  bids_descending := h.1.ordered.isChain.imp fun a b hab => by
    simpa [Side.rank] using (Side.compare_eq_lt_iff .bid _ _).1 hab
  asks_ascending := h.2.ordered.isChain.imp fun a b hab => (Side.compare_eq_lt_iff .ask _ _).1 hab
  distinct side := (h.isSide side).ordered.distinct
  standing side l hl hzero := by
    have hleft : l.quantity.isZero = false := (h.isSide side).standing l hl
    rw [(Decimal.isZero_iff _).2 hzero] at hleft
    exact absurd hleft (by decide)
  bestBid_iff p := by
    simpa only [Depth.bestBid, Side.rank, neg_le_neg_iff] using
      head?_price_eq_some_iff h.1.ordered p
  bestAsk_iff p := head?_price_eq_some_iff h.2.ordered p

end Depth

end BookFeed.Book
