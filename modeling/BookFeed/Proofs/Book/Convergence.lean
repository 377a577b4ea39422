import BookFeed.Proofs.Book.Replay

set_option autoImplicit false

/-!
# A seeded book ends as the server's book

The server has a book and does batches of changes to it, one after the other; version `i` is its
book after `i` batches. A local book gets the same batches and, at some moment, a snapshot of
some version. The version of the snapshot and the moment at which it comes are independent, so
batches may be done over a snapshot that has them already, and the oldest waiting batches may be
forgotten. Neither does harm: at each price the last change counts, and a batch that is
forgotten is one that the snapshot has.

## Main results

* `BookFeed.Book.same_after` — replays over two books end the same where the books differ at
  most at prices that the batches name.
* `BookFeed.Book.seed_converges` — the local book ends with the levels of the server.
-/

namespace BookFeed.Book

/-- The same batches over two books end the same if the books agree wherever the batches are
silent.
-/
theorem same_after {d e : Depth} (hd : d.IsBook) (he : e.IsBook) {us : List DepthUpdate}
    (h : ∀ side q, lastAt (changesOf us side) q = none →
      quantityAt (d.levels side) q = quantityAt (e.levels side) q) :
    (d.after us).Same (e.after us) := by
  refine same_of_forall_quantityAt (hd.after us) (he.after us) fun side q => ?_
  rw [quantityAt_after hd, quantityAt_after he]
  cases hlast : lastAt (changesOf us side) q with
  | none => exact h side q hlast
  | some l => rfl

/-- What later batches do not name, the batches up to version `j` leave as it was at version
`a`. -/
theorem quantityAt_version_of_silent {server : Depth} (hs : server.IsBook) {us : List DepthUpdate}
    {a j : ℕ} (haj : a ≤ j) {side : Side} {q : ℚ}
    (hq : lastAt (changesOf (us.drop a) side) q = none) :
    quantityAt ((server.after (us.take j)).levels side) q =
      quantityAt ((server.after (us.take a)).levels side) q := by
  have hbetween : us.take j = us.take a ++ (us.take j).drop a := by
    conv_lhs => rw [← List.take_append_drop a (us.take j), List.take_take, min_eq_left haj]
  have hlater : us.drop a = (us.take j).drop a ++ us.drop j := by
    rw [List.drop_take, ← Nat.add_sub_of_le haj, ← List.drop_drop, Nat.add_sub_cancel_left,
      List.take_append_drop]
  have hsilent : lastAt (changesOf ((us.take j).drop a) side) q = none := by
    rw [hlater, changesOf_append, lastAt_append, Option.or_eq_none_iff] at hq
    exact hq.2
  rw [hbetween, Depth.after_append, quantityAt_after_of_silent (hs.after _) hsilent]

/-- **A seeded book ends as the server's book.** The server starts from the book `server` and
does the batches `us`. A local book that holds at most `max limit 1` waiting batches gets the
first `k` of them, then a snapshot of version `j`, however spelled and ordered, and then the
other batches. If no batch was forgotten that the snapshot lacks, it ends with the levels that
the server ends with.

**Proof sketch.** Let `a` be the number of batches that were forgotten, so `a ≤ j`. The local
book ends as the snapshot after the batches behind `a`, the server as its version `a` after the
same batches. A price that these batches do not name is at version `j` what it was at version
`a`, since the batches between the two are among them; so the replays end the same by
`same_after`. -/
theorem seed_converges (server : Depth) (hserver : server.normalize = server)
    (us : List DepthUpdate) (limit j k : ℕ) (hroom : k ≤ j + max limit 1) (snapshot : Depth)
    (hsnapshot : snapshot.normalize.Same (server.after (us.take j))) :
    ((((DepthBook.new limit).feed (us.take k)).seed snapshot).feed (us.drop k)).depth.Same
      (server.after us) := by
  have hbook := (Depth.normalize_eq_self_iff server).1 hserver
  set a := (us.take k).length - max limit 1 with ha
  have haj : a ≤ j := by
    have := List.length_take_le k us
    omega
  have hkept : (us.take k).drop a ++ us.drop k = us.drop a := by
    conv_rhs => rw [← List.take_append_drop k us]
    rw [List.drop_append_of_le_length (by omega)]
  have hlocal : ((((DepthBook.new limit).feed (us.take k)).seed snapshot).feed (us.drop k)).depth =
      snapshot.normalize.after (us.drop a) := by
    rw [DepthBook.depth_feed_seed, DepthBook.feed_new, ← ha, hkept]
  have hremote : server.after us = (server.after (us.take a)).after (us.drop a) := by
    rw [← Depth.after_append, List.take_append_drop]
  rw [hlocal, hremote]
  refine same_after (Depth.isBook_normalize snapshot) (hbook.after _) fun side q hq => ?_
  rw [hsnapshot.quantityAt_eq side q]
  exact quantityAt_version_of_silent hbook haj hq

/-- A level of whole numbers. -/
private def whole (price quantity : Fin 1000) : Level :=
  ⟨.ofInt price (by have := price.isLt; omega),
    .ofInt quantity (by have := quantity.isLt; omega)⟩

/-- A book of two bids. -/
private def twoBids : Depth := ⟨[whole 100 2, whole 99 5], []⟩

/-- Four batches: a bid goes, another one comes, the first one comes back, an ask comes. -/
private def fourBatches : List DepthUpdate :=
  [{ bids := [whole 100 0] }, { bids := [whole 98 3] }, { bids := [whole 100 7, whole 98 1] },
    { asks := [whole 101 4] }]

/-- The bids 98 and 99 out of order, one of them as `99.00`, and one that is gone. -/
private def respelled : Depth where
  bids := [whole 98 3, whole 100 0, ⟨⟨9900, 2, by decide, by decide⟩, .ofInt 5 (by decide)⟩]

/-- With room for two batches, three come before the snapshot of version two: the first one is
forgotten, and the second one is done although the snapshot has it. -/
theorem seed_converges_forgetful :
    twoBids.normalize = twoBids ∧ 3 ≤ 2 + max 2 1 ∧
      respelled.normalize.Same (twoBids.after (fourBatches.take 2)) ∧
      ((((DepthBook.new 2).feed (fourBatches.take 3)).seed respelled).feed
        (fourBatches.drop 3)).depth.Same (twoBids.after fourBatches) := by
  have hserver : twoBids.normalize = twoBids := by decide +kernel
  have hsnapshot : respelled.normalize.Same (twoBids.after (fourBatches.take 2)) := by
    decide +kernel
  exact ⟨hserver, by decide, hsnapshot,
    seed_converges twoBids hserver fourBatches 2 2 3 (by decide) respelled hsnapshot⟩

end BookFeed.Book
