import BookFeed.Proofs.Book.Spelling

set_option autoImplicit false

/-!
# Batches that are cut elsewhere, and batches that are delivered again

Merging batch after batch into a side is doing all their changes one after the other, so it does
not matter where a stream of changes is cut into batches: what a merge leaves is a side, and the
next merge takes a side as it is. A depth that no batch has come to need not be a book, so at
least one batch has to come; a book stays what it is when none does.

When the latest batches are delivered once more, the side goes back through states that it has
been in: levels go and come back. It ends where it was, because at each price the changes of the
batches leave the same level over what they left before: a removal among them makes the start of
no account, and without one the level that they left keeps its spelling and gets the last
quantity again.

## Main definitions

* `BookFeed.Book.DepthUpdate.joined` — all changes of some batches, as one batch.

## Main results

* `BookFeed.Book.merge_append` — a batch can be cut in two.
* `BookFeed.Book.after_cons` — batches that are done one after the other are one batch.
* `BookFeed.Book.cuts_do_not_matter` — so the cuts do not matter, for sides, depths and books.
* `BookFeed.Book.outcome_outcome` — changes of one price, done once more, leave what they
  left.
* `BookFeed.Book.redelivery_harmless` — so do the latest batches, delivered once more.
-/

namespace BookFeed.Book

/-! ### Cuts -/

theorem merge_append (side : Side) (previous a b : List Level) :
    merge side previous (a ++ b) = merge side (merge side previous a) b := by
  rw [merge_eq_foldl (isSide_merge side previous a), merge, List.foldl_append]
  rfl

/-- All changes of some batches, as one batch. -/
def DepthUpdate.joined (us : List DepthUpdate) : DepthUpdate where
  bids := changesOf us .bid
  asks := changesOf us .ask

theorem DepthUpdate.changes_joined (us : List DepthUpdate) (side : Side) :
    (joined us).changes side = changesOf us side := by
  cases side <;> rfl

/-- A depth is its two sides. -/
theorem Depth.eq_of_levels_eq {d e : Depth} (h : ∀ side, d.levels side = e.levels side) :
    d = e := by
  cases d
  cases e
  exact congrArg₂ Depth.mk (h .bid) (h .ask)

/-- On a book, batches are one batch, even if there is none. -/
theorem after_eq_update_joined {d : Depth} (h : d.IsBook) (us : List DepthUpdate) :
    d.after us = d.update (.joined us) := by
  refine Depth.eq_of_levels_eq fun side => ?_
  rw [levels_after h, Depth.levels_update, DepthUpdate.changes_joined,
    merge_eq_foldl (h.isSide side)]

/-- On any depth, batches are one batch, if there is one at all: the first of them leaves a
book. -/
theorem after_cons (d : Depth) (u : DepthUpdate) (us : List DepthUpdate) :
    d.after (u :: us) = d.update (.joined (u :: us)) := by
  have hfirst : d.after (u :: us) = (d.update u).after us := rfl
  refine Depth.eq_of_levels_eq fun side => ?_
  have hchanges : changesOf (u :: us) side = u.changes side ++ changesOf us side := by
    simp [changesOf]
  rw [hfirst, after_eq_update_joined (Depth.isBook_update d u), Depth.levels_update,
    Depth.levels_update, Depth.levels_update, DepthUpdate.changes_joined,
    DepthUpdate.changes_joined, hchanges, merge_append]

/-- A book that has its snapshot ends the same whether its batches come one by one or as one. -/
theorem DepthBook.feed_eq_feed_joined {b : DepthBook} (h : b.seeded = true) (hbook : b.depth.IsBook)
    (us : List DepthUpdate) : b.feed us = b.feed [.joined us] := by
  rw [feed_of_seeded h, feed_of_seeded h, after_eq_update_joined hbook]
  rfl

/-- **It does not matter where a stream of changes is cut.** For each side and any lists of
levels, merging one list after the other is merging both of them joined, level for level and
down to the spelling of prices and quantities. So batches `u :: us` that are done on any depth
one after the other leave what all their bids and asks leave as one batch; on a depth that is a
book this holds of no batches too; and a book that has its snapshot ends the same however the
changes that come after it are cut.

**Proof sketch.** The first merge leaves a side, and merging into a side is doing the changes
one after the other (`merge_append`). The rest is that on the sides of a depth, where only the
first batch can meet levels that are not in order. -/
theorem cuts_do_not_matter (side : Side) (previous a b : List Level) (d : Depth) (u : DepthUpdate)
    (us : List DepthUpdate) (limit : ℕ) (es : List DepthBook.Event) (snapshot : Depth) :
    merge side (merge side previous a) b = merge side previous (a ++ b) ∧
      d.after (u :: us) = d.apply ((u :: us).flatMap (·.bids)) ((u :: us).flatMap (·.asks)) ∧
      d.normalize.after us = d.normalize.apply (us.flatMap (·.bids)) (us.flatMap (·.asks)) ∧
      (((DepthBook.new limit).run es).seed snapshot).feed us =
        (((DepthBook.new limit).run es).seed snapshot).feed [.joined us] := by
  have hbook : (((DepthBook.new limit).run es).seed snapshot).depth.IsBook :=
    (Depth.isBook_normalize snapshot).after _
  exact ⟨(merge_append side previous a b).symm, after_cons d u us,
    after_eq_update_joined (Depth.isBook_normalize d) us,
    DepthBook.feed_eq_feed_joined rfl hbook us⟩

/-! ### Redelivery -/

/-- Changes of one price, done once more, leave what they left.

**Proof sketch.** With a removal among them, what they leave does not depend on what was held.
Without one they leave a level of the last quantity, and over a level that stands they leave its
spelling. -/
theorem outcome_outcome (held : Option Level) (ls : List Level) :
    outcome (outcome held ls) ls = outcome held ls := by
  cases hls : ls.any (·.isRemoval) with
  | true => rw [outcome_of_removal _ hls, outcome_of_removal held hls]
  | false =>
    have hstanding : ∀ l ∈ ls, l.isRemoval = false := by simpa using hls
    cases ls with
    | nil => rfl
    | cons first ls =>
      obtain ⟨h, hs⟩ := List.forall_mem_cons.1 hstanding
      have hone : outcome held (first :: ls) =
          outcome (some ⟨(held.getD first).price, first.quantity⟩) ls := by
        rw [outcome, List.foldl_cons, Level.over_eq_some h]
        rfl
      rw [hone, outcome_some hs, outcome_some hstanding, List.getLast?_cons]
      cases ls.getLast? <;> rfl

/-- Batches that are merged into a side one after the other are one batch. -/
theorem foldl_merge (side : Side) (previous a : List Level) (batches : List (List Level)) :
    batches.foldl (merge side) (merge side previous a) =
      merge side previous (a ++ batches.flatten) := by
  induction batches generalizing a with
  | nil => simp
  | cons b batches ih =>
    rw [List.foldl_cons, ← merge_append, ih, List.flatten_cons, List.append_assoc]

/-- The end of a batch, merged once more, changes nothing. -/
theorem merge_merge_append (side : Side) (previous a b : List Level) :
    merge side (merge side previous (a ++ b)) b = merge side previous (a ++ b) := by
  have hside := isSide_merge side previous (a ++ b)
  refine eq_of_levelAt_eq (isSide_merge side _ b).ordered hside.ordered fun q => ?_
  have honce : levelAt (merge side previous (a ++ b)) q =
      outcome (levelAt (merge side previous a) q) (levelsAt b q) := by
    have ha := isSide_merge side previous a
    rw [merge_append, merge_eq_foldl ha, levelAt_foldl_change ha]
  rw [merge_eq_foldl hside, levelAt_foldl_change hside, honce, outcome_outcome]

/-- **Delivering the latest batches again is harmless.** Batches are merged into any list of
levels, one after the other, and then those behind the first `i` of them once more. The side
ends as it was before that, level for level, down to the spelling of prices and quantities.

**Proof sketch.** After the first batch, all batches are one (`foldl_merge`), and those that are
delivered again are its end. At each price the end leaves the same level over what it left
before (`outcome_outcome`), and a side is told by its levels. -/
theorem redelivery_harmless (side : Side) (previous : List Level) (batches : List (List Level))
    (i : ℕ) :
    (batches ++ batches.drop i).foldl (merge side) previous =
      batches.foldl (merge side) previous := by
  cases batches with
  | nil => simp
  | cons first rest =>
    have hsplit : first ++ rest.flatten =
        ((first :: rest).take i).flatten ++ ((first :: rest).drop i).flatten := by
      rw [← List.flatten_append, List.take_append_drop, List.flatten_cons]
    have honce : (first :: rest).foldl (merge side) previous =
        merge side previous (first ++ rest.flatten) := foldl_merge side previous first rest
    rw [List.foldl_append, honce, foldl_merge, merge_append, hsplit, merge_merge_append]

end BookFeed.Book
