import BookFeed.Proofs.Book.Spread
import BookFeed.Proofs.Decimal.Midpoint

set_option autoImplicit false

/-!
# The middle price and the spread

The middle price is one half of the sum of the best prices, and that sum may have more digits
than there is room for. A sum without its last digit is off by up to five units of that digit.
So the middle price of a depth that is not crossed can lie outside its spread, even if both best
prices are one number. It never does if there is room for the sum, or if the spread is as large
as what the sum loses.

## Main results

* `BookFeed.Book.Depth.exists_midPrice` — a depth with bids and asks has a middle price,
  unless their sum has no room.
* `BookFeed.Book.Depth.middle_inside_iff` — when the middle price lies inside the spread.
* `BookFeed.Book.Depth.middle_outside_locked` — the best prices are one number, and the middle
  price is less.
-/

namespace BookFeed.Book.Depth

theorem midPrice_eq {d : Depth} {bid ask : Decimal} (h : d.bests = some (bid, ask)) :
    d.midPrice = some (Overflow.addition.orElse (bid.add ask) >>= fun total =>
      Overflow.division.orElse total.half) := by
  rw [midPrice, h]
  rfl

/-- A depth with bids and asks has a middle price, unless the sum of its best prices has no room
at all. A sum can always be halved. -/
theorem exists_midPrice {d : Depth} {bid ask : Decimal} (h : d.bests = some (bid, ask))
    (hroom : d.midPrice ≠ some (.error .addition)) :
    ∃ total mid, bid.add ask = some total ∧ total.half = some mid ∧
      d.midPrice = some (.ok mid) := by
  have hmiddle := midPrice_eq h
  cases hadd : bid.add ask with
  | none =>
    rw [hadd] at hmiddle
    exact absurd hmiddle hroom
  | some total =>
    obtain ⟨mid, hhalf, -⟩ := Decimal.exists_half total
    refine ⟨total, mid, rfl, hhalf, ?_⟩
    rw [hmiddle, hadd]
    exact congrArg (fun m => some (Overflow.division.orElse m)) hhalf

/-- **When the middle price lies inside the spread.** Let a depth have bids and asks, let it not
be crossed, and let there be room for the sum of its best prices, perhaps without its last
digits. Then it has a middle price. Count in units of the last digit of the finer one of the
best prices: the middle price is not less than the best bid and not greater than the best ask
just if the exact sum has at most 96 bits, or the spread is at least the distance of that sum
from the nearest multiple of ten.

**Proof sketch.** The middle price is one half of the sum, and nothing that halving rounds away
matters (`Decimal.half_between_iff`). -/
theorem middle_inside_iff (d : Depth) (hbids : d.bids ≠ []) (hasks : d.asks ≠ [])
    (hcrossed : d.isCrossed = false) (hroom : d.midPrice ≠ some (.error .addition)) :
    ∃ bid ask mid, d.bestBid = some bid ∧ d.bestAsk = some ask ∧
      d.midPrice = some (.ok mid) ∧
      (bid.value ≤ mid.value ∧ mid.value ≤ ask.value ↔
        (Decimal.exactSum bid ask).natAbs < 79228162514264337593543950336 ∨
          Decimal.tensDistance (Decimal.exactSum bid ask) ≤ Decimal.gap bid ask) := by
  obtain ⟨bid, ask, hbid, hask, hbests⟩ := exists_bests hbids hasks
  obtain ⟨total, mid, hadd, hhalf, hmid⟩ := exists_midPrice hbests hroom
  have hle : bid.value ≤ ask.value := by
    rw [← not_lt, ← isCrossed_iff hbests, hcrossed]
    decide
  exact ⟨bid, ask, mid, hbid, hask, hmid, Decimal.half_between_iff hle hadd hhalf⟩

/-- A depth of one bid and one ask. -/
private def pairDepth (bid ask : Decimal) : Depth where
  bids := [⟨bid, .orZero 1 0⟩]
  asks := [⟨ask, .orZero 1 0⟩]

/-- Both best prices are `4.0000000000000000000000000001`. -/
private def lockedDepth : Depth :=
  pairDepth (.orZero 40000000000000000000000000001 28) (.orZero 40000000000000000000000000001 28)

/-- The ask is four units of the last digit above the bid. -/
private def narrowDepth : Depth :=
  pairDepth (.orZero 40000000000000000000000000001 28) (.orZero 40000000000000000000000000005 28)

/-- The sum has no room for its last digit, which is as far from ten as the ask is from the bid.
The middle price is the ask. -/
theorem middle_inside_iff_narrow :
    narrowDepth.bids ≠ [] ∧ narrowDepth.asks ≠ [] ∧ narrowDepth.isCrossed = false ∧
      narrowDepth.midPrice = some (.ok (.orZero 40000000000000000000000000005 28)) ∧
      ∃ bid ask mid, narrowDepth.bestBid = some bid ∧ narrowDepth.bestAsk = some ask ∧
        narrowDepth.midPrice = some (.ok mid) ∧ bid.value ≤ mid.value ∧
          mid.value ≤ ask.value := by
  have hcrossed : narrowDepth.isCrossed = false := by decide +kernel
  have hmiddle : narrowDepth.midPrice = some (.ok (.orZero 40000000000000000000000000005 28)) := by
    decide +kernel
  obtain ⟨bid, ask, mid, hbid, hask, hmid, hinside⟩ :=
    middle_inside_iff narrowDepth (List.cons_ne_nil _ _) (List.cons_ne_nil _ _) hcrossed
      (by simp [hmiddle])
  obtain rfl : .orZero 40000000000000000000000000001 28 = bid := Option.some.inj hbid
  obtain rfl : .orZero 40000000000000000000000000005 28 = ask := Option.some.inj hask
  exact ⟨List.cons_ne_nil _ _, List.cons_ne_nil _ _, hcrossed, hmiddle, _, _, mid, hbid, hask,
    hmid, hinside.2 (Or.inr (by decide +kernel))⟩

/-- The best bid and the best ask are one number, and the middle price is less: the last digit
of their sum is rounded away. -/
theorem middle_outside_locked :
    lockedDepth.bids ≠ [] ∧ lockedDepth.asks ≠ [] ∧ lockedDepth.isCrossed = false ∧
      ∃ bid ask mid, lockedDepth.bestBid = some bid ∧ lockedDepth.bestAsk = some ask ∧
        lockedDepth.midPrice = some (.ok mid) ∧ mid.value < bid.value ∧
          mid.value < ask.value := by
  have hmiddle : lockedDepth.midPrice = some (.ok (.orZero 4000000000000000000000000000 27)) := by
    decide +kernel
  have hless : (Decimal.orZero 4000000000000000000000000000 27).value <
      (Decimal.orZero 40000000000000000000000000001 28).value :=
    (Decimal.compare_eq_lt_iff _ _).1 (by decide +kernel)
  exact ⟨List.cons_ne_nil _ _, List.cons_ne_nil _ _, by decide +kernel, _, _, _, rfl, rfl,
    hmiddle, hless, hless⟩

end BookFeed.Book.Depth
