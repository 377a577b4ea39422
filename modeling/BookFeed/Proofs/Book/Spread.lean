import BookFeed.Book.Depth
import BookFeed.Proofs.Decimal.Rounding

set_option autoImplicit false

/-!
# The spread and the crossed flag

That a depth is crossed is found by comparing the two best prices, and the spread by subtracting
them. A difference may have more digits than there is room for, so that the two could disagree
where the prices are close to each other. They never do: what subtracting rounds away is small
against what is left.

## Main results

* `BookFeed.Book.Depth.exists_spread` — a depth with bids and asks has a spread, unless it has
  no room.
* `BookFeed.Book.Depth.spread_tells_crossed` — its sign tells whether the depth is crossed.
-/

namespace BookFeed.Book.Depth

theorem exists_bests {d : Depth} (hbids : d.bids ≠ []) (hasks : d.asks ≠ []) :
    ∃ bid ask, d.bestBid = some bid ∧ d.bestAsk = some ask ∧ d.bests = some (bid, ask) := by
  obtain ⟨bid, bids, hbid⟩ := List.exists_cons_of_ne_nil hbids
  obtain ⟨ask, asks, hask⟩ := List.exists_cons_of_ne_nil hasks
  exact ⟨bid.price, ask.price, by simp [bestBid, hbid], by simp [bestAsk, hask],
    by simp [bests, bestBid, bestAsk, hbid, hask]⟩

/-- A depth with bids and asks has a spread, unless the difference has no room. -/
theorem exists_spread {d : Depth} {bid ask : Decimal} (h : d.bests = some (bid, ask))
    (hroom : d.spread ≠ some (.error .subtraction)) :
    ∃ s, d.spread = some (.ok s) ∧ ask.sub bid = some s := by
  have hspread : d.spread = some (Overflow.subtraction.orElse (ask.sub bid)) := by simp [spread, h]
  cases hsub : ask.sub bid with
  | none =>
    rw [hsub] at hspread
    exact absurd hspread hroom
  | some s => exact ⟨s, by rw [hspread, hsub]; rfl, rfl⟩

theorem isCrossed_iff {d : Depth} {bid ask : Decimal} (h : d.bests = some (bid, ask)) :
    d.isCrossed = true ↔ ask.value < bid.value := by
  rw [isCrossed, h, beq_iff_eq, Decimal.compare_eq_lt_iff]

/-- **The spread tells whether a depth is crossed.** Let a depth have bids and asks, and let
there be room for the difference of its best prices. Then it has a spread. The depth is crossed
just if its spread is negative, and the spread is zero just if the best prices are one number,
whatever their signs and scales are and whatever digits of the difference are dropped.

**Proof sketch.** The difference is exact, or digits of it are dropped because it has more than
96 bits with them; then it is too large to be rounded to zero (`Decimal.sign_sub`). -/
theorem spread_tells_crossed (d : Depth) (hbids : d.bids ≠ []) (hasks : d.asks ≠ [])
    (hroom : d.spread ≠ some (.error .subtraction)) :
    ∃ bid ask s, d.bestBid = some bid ∧ d.bestAsk = some ask ∧ d.spread = some (.ok s) ∧
      (d.isCrossed = true ↔ s.value < 0) ∧ (s.value = 0 ↔ bid.value = ask.value) := by
  obtain ⟨bid, ask, hbid, hask, hbests⟩ := exists_bests hbids hasks
  obtain ⟨s, hspread, hsub⟩ := exists_spread hbests hroom
  obtain ⟨hneg, hzero⟩ := Decimal.sign_sub hsub
  refine ⟨bid, ask, s, hbid, hask, hspread, ?_, hzero.trans eq_comm⟩
  rw [isCrossed_iff hbests, hneg]

/-- A bid of one half below the greatest whole price. -/
private def wideDepth : Depth where
  bids := [⟨.orZero 5 1, .orZero 1 0⟩]
  asks := [⟨.orZero 79228162514264337593543950335 0, .orZero 1 0⟩]

/-- The last digit of the difference is dropped, and the depth is not crossed. -/
theorem spread_tells_crossed_wide :
    wideDepth.bids ≠ [] ∧ wideDepth.asks ≠ [] ∧
      wideDepth.spread = some (.ok (.ofInt 79228162514264337593543950334 (by decide))) ∧
      wideDepth.isCrossed = false := by
  have hspread : wideDepth.spread =
      some (.ok (.ofInt 79228162514264337593543950334 (by decide))) := by decide +kernel
  obtain ⟨-, -, s, -, -, hs, hcrossed, -⟩ :=
    spread_tells_crossed wideDepth (List.cons_ne_nil _ _) (List.cons_ne_nil _ _) (by simp [hspread])
  obtain rfl : _ = s := Except.ok.inj (Option.some.inj (hspread.symm.trans hs))
  refine ⟨List.cons_ne_nil _ _, List.cons_ne_nil _ _, hspread, Bool.eq_false_iff.2 fun h => ?_⟩
  have hneg := (Decimal.value_neg_iff _).1 (hcrossed.1 h)
  exact absurd hneg (by decide)

end BookFeed.Book.Depth
