import BookFeed.Book.DepthBook
import BookFeed.Proofs.Book.Sides

set_option autoImplicit false

/-!
# Replaying batches of changes

Batches are done one after the other on both sides of a depth. What they leave at a price
depends on the last change of that price alone: where there is one, the depth they start from
does not matter, and where there is none they change nothing. A book that waits for its snapshot
keeps as many of the latest batches as it has room for; once it has the snapshot, no batch
waits.

## Main definitions

* `BookFeed.Book.Depth.levels`, `BookFeed.Book.DepthUpdate.changes` — one side of a depth, of
  a batch.
* `BookFeed.Book.Depth.IsBook` — both sides are sides of a book.
* `BookFeed.Book.Depth.Same` — the same levels in the same order, however they are spelled.
* `BookFeed.Book.Depth.after`, `BookFeed.Book.DepthBook.feed` — a depth, a book after batches.
* `BookFeed.Book.DepthBook.Event`, `BookFeed.Book.DepthBook.run` — batches and snapshots in
  any order.

## Main results

* `BookFeed.Book.Depth.normalize_eq_self_iff` — the books are the normalised depths.
* `BookFeed.Book.quantityAt_after` — what batches leave at a price.
* `BookFeed.Book.same_of_forall_quantityAt` — books that agree at each price are the same.
* `BookFeed.Book.DepthBook.feed_new` — what a book holds before its snapshot.
* `BookFeed.Book.DepthBook.depth_feed_seed` — the depth of a book that has its snapshot.
* `BookFeed.Book.DepthBook.isBook_run` — the depth is a book, whatever comes.
* `BookFeed.Book.DepthBook.pending_run` — nothing waits in a book that has its snapshot.
-/

namespace BookFeed.Book

/-! ### Both sides -/

/-- The changes of one side. -/
def DepthUpdate.changes (u : DepthUpdate) : Side → List Level
  | .bid => u.bids
  | .ask => u.asks

namespace Depth

/-- The levels of one side. -/
def levels (d : Depth) : Side → List Level
  | .bid => d.bids
  | .ask => d.asks

/-- Both sides are sides of a book: in order, each price once, and something left at each. -/
def IsBook (d : Depth) : Prop := IsSide .bid d.bids ∧ IsSide .ask d.asks

/-- The same levels in the same order, however they are spelled. -/
def Same (d e : Depth) : Prop :=
  List.Forall₂ Level.Same d.bids e.bids ∧ List.Forall₂ Level.Same d.asks e.asks

instance (d : Depth) : Decidable d.IsBook := inferInstanceAs (Decidable (_ ∧ _))

instance (d e : Depth) : Decidable (d.Same e) := inferInstanceAs (Decidable (_ ∧ _))

/-- The depth after some batches of changes. -/
def after (d : Depth) (us : List DepthUpdate) : Depth := us.foldl update d

/-- Each side of a book is a side. -/
theorem IsBook.isSide {d : Depth} (h : d.IsBook) (side : Side) : IsSide side (d.levels side) := by
  cases side with
  | bid => exact h.1
  | ask => exact h.2

/-- A batch changes each side on its own. -/
theorem levels_update (d : Depth) (u : DepthUpdate) (side : Side) :
    (d.update u).levels side = merge side (d.levels side) (u.changes side) := by
  cases side <;> rfl

/-- A batch of changes leaves a book. -/
theorem isBook_update (d : Depth) (u : DepthUpdate) : (d.update u).IsBook :=
  ⟨isSide_merge .bid d.bids u.bids, isSide_merge .ask d.asks u.asks⟩

/-- No levels form a book. -/
theorem isBook_empty : IsBook {} := ⟨isSide_nil .bid, isSide_nil .ask⟩

/-- Any two lists are made into a book. -/
theorem isBook_normalize (d : Depth) : d.normalize.IsBook :=
  ⟨isSide_merge .bid [] d.bids, isSide_merge .ask [] d.asks⟩

/-- The books are the depths that normalising leaves as they are. -/
theorem normalize_eq_self_iff (d : Depth) : d.normalize = d ↔ d.IsBook := by
  constructor
  · intro h
    rw [← h]
    exact isBook_normalize d
  · intro h
    have hbids : merge .bid [] d.bids = d.bids := foldl_change_nil h.1
    have hasks : merge .ask [] d.asks = d.asks := foldl_change_nil h.2
    exact congrArg₂ Depth.mk hbids hasks

/-- A book is a book after any batches. -/
theorem IsBook.after {d : Depth} (h : d.IsBook) (us : List DepthUpdate) : (d.after us).IsBook := by
  induction us generalizing d with
  | nil => exact h
  | cons u us ih => exact ih (isBook_update d u)

/-- Batches can be done in two parts. -/
theorem after_append (d : Depth) (us us' : List DepthUpdate) :
    d.after (us ++ us') = (d.after us).after us' := by
  simp [after]

end Depth

/-! ### Price by price -/

/-- All changes of one side in some batches. -/
def changesOf (us : List DepthUpdate) (side : Side) : List Level := us.flatMap (·.changes side)

/-- The changes of two lists of batches. -/
theorem changesOf_append (us us' : List DepthUpdate) (side : Side) :
    changesOf (us ++ us') side = changesOf us side ++ changesOf us' side := by
  simp [changesOf]

/-- On a book, batches are their changes done one after the other. -/
theorem levels_after {d : Depth} (h : d.IsBook) (us : List DepthUpdate) (side : Side) :
    (d.after us).levels side = (changesOf us side).foldl (change side) (d.levels side) := by
  induction us generalizing d with
  | nil => rfl
  | cons u us ih =>
    have hstep : (d.update u).levels side =
        (u.changes side).foldl (change side) (d.levels side) := by
      rw [Depth.levels_update, merge_eq_foldl (h.isSide side)]
    calc (d.after (u :: us)).levels side
        = ((d.update u).after us).levels side := rfl
      _ = (changesOf us side).foldl (change side) ((d.update u).levels side) :=
          ih (Depth.isBook_update d u)
      _ = (changesOf (u :: us) side).foldl (change side) (d.levels side) := by
          simp [changesOf, hstep]

/-- What batches leave at a price: what their last change of it says, or else what stood
there. -/
theorem quantityAt_after {d : Depth} (h : d.IsBook) (us : List DepthUpdate) (side : Side)
    (q : ℚ) :
    quantityAt ((d.after us).levels side) q =
      (lastAt (changesOf us side) q).elim (quantityAt (d.levels side) q) Level.left := by
  rw [levels_after h, quantityAt_foldl_change (h.isSide side)]

/-- Batches that do not name a price leave it alone. -/
theorem quantityAt_after_of_silent {d : Depth} (h : d.IsBook) {us : List DepthUpdate} {side : Side}
    {q : ℚ} (hq : lastAt (changesOf us side) q = none) :
    quantityAt ((d.after us).levels side) q = quantityAt (d.levels side) q := by
  rw [quantityAt_after h, hq, Option.elim_none]

/-- The same depths agree at each price. -/
theorem Depth.Same.quantityAt_eq {d e : Depth} (h : d.Same e) (side : Side) (q : ℚ) :
    quantityAt (d.levels side) q = quantityAt (e.levels side) q := by
  cases side with
  | bid => exact quantityAt_congr h.1 q
  | ask => exact quantityAt_congr h.2 q

/-- Books that agree at each price are the same. -/
theorem same_of_forall_quantityAt {d e : Depth} (hd : d.IsBook) (he : e.IsBook)
    (h : ∀ side q, quantityAt (d.levels side) q = quantityAt (e.levels side) q) : d.Same e :=
  ⟨same_of_quantityAt_eq hd.1.ordered he.1.ordered (h .bid),
    same_of_quantityAt_eq hd.2.ordered he.2.ordered (h .ask)⟩

/-! ### Books that wait -/

namespace DepthBook

/-- A book after some batches. -/
def feed (b : DepthBook) (us : List DepthUpdate) : DepthBook :=
  us.foldl (fun b u => (b.apply u).1) b

/-- One more batch. -/
theorem feed_concat (b : DepthBook) (us : List DepthUpdate) (u : DepthUpdate) :
    b.feed (us ++ [u]) = ((b.feed us).apply u).1 := by
  simp [feed]

/-- A book that has its snapshot does all changes at once. -/
theorem feed_of_seeded {b : DepthBook} (h : b.seeded = true) (us : List DepthUpdate) :
    b.feed us = { b with depth := b.depth.after us } := by
  induction us using List.reverseRecOn with
  | nil => rfl
  | append_singleton us u ih =>
    rw [feed_concat, ih, Depth.after_append]
    simp [apply, h, Depth.after]

/-- Before its snapshot a book has no levels and keeps as many of the latest batches as it has
room for.

**Proof sketch.** Induction on the batches, from their end. The batches kept so far are the ones
behind `us.length - limit`; if they fill the room, the oldest one goes, and in either case those
behind `us.length + 1 - limit` are left, with the new one at their end. -/
theorem feed_new (limit : ℕ) (us : List DepthUpdate) :
    (new limit).feed us = { new limit with pending := us.drop (us.length - max limit 1) } := by
  induction us using List.reverseRecOn with
  | nil => simp [feed, new]
  | append_singleton us u ih =>
    have hone : 1 ≤ max limit 1 := le_max_right ..
    have hback : us.length - max limit 1 + (us.length - (us.length - max limit 1) + 1 - max limit 1)
        = us.length + 1 - max limit 1 := by omega
    rw [feed_concat, ih]
    simp only [apply, new, buffer, Bool.false_eq_true, ↓reduceIte, List.drop_drop,
      List.length_drop, hback, List.length_append, List.length_singleton]
    rw [List.drop_append_of_le_length (by omega)]

/-- Once seeded, a book holds its snapshot with all batches done that waited or came later. -/
theorem depth_feed_seed (b : DepthBook) (snapshot : Depth) (us : List DepthUpdate) :
    ((b.seed snapshot).feed us).depth = snapshot.normalize.after (b.pending ++ us) := by
  rw [feed_of_seeded rfl, Depth.after_append]
  rfl

/-! ### Runs of a book -/

/-- What can happen to a book. -/
inductive Event where
  /-- A batch of changes comes. -/
  | apply (u : DepthUpdate)
  /-- A full snapshot comes. -/
  | seed (snapshot : Depth)
deriving DecidableEq, Repr

/-- A book after an event. -/
def advance (b : DepthBook) : Event → DepthBook
  | .apply u => (b.apply u).1
  | .seed snapshot => b.seed snapshot

/-- A book after some events. -/
def run (b : DepthBook) (es : List Event) : DepthBook := es.foldl advance b

theorem run_append (b : DepthBook) (es es' : List Event) :
    b.run (es ++ es') = (b.run es).run es' := by
  simp [run]

/-- An event leaves a book. -/
theorem isBook_advance {b : DepthBook} (h : b.depth.IsBook) (e : Event) :
    (b.advance e).depth.IsBook := by
  cases e with
  | apply u =>
    simp only [advance, DepthBook.apply]
    split
    · exact Depth.isBook_update b.depth u
    · exact h
  | seed snapshot => exact (Depth.isBook_normalize snapshot).after b.pending

/-- The depth is a book all along. -/
theorem isBook_run (limit : ℕ) (es : List Event) : ((new limit).run es).depth.IsBook := by
  induction es using List.reverseRecOn with
  | nil => exact Depth.isBook_empty
  | append_singleton es e ih =>
    rw [run_append]
    exact isBook_advance ih e

/-- No event makes a batch wait in a book that has its snapshot. -/
theorem pending_advance {b : DepthBook} (h : b.seeded = true → b.pending = []) (e : Event) :
    (b.advance e).seeded = true → (b.advance e).pending = [] := by
  cases e with
  | apply u =>
    intro hseeded
    by_cases hb : b.seeded = true
    · simpa [advance, DepthBook.apply, hb] using h hb
    · simp [advance, DepthBook.apply, buffer, hb] at hseeded
  | seed snapshot => exact fun _ => rfl

/-- In no run does a batch wait once the snapshot is there. -/
theorem pending_run (limit : ℕ) (es : List Event) :
    ((new limit).run es).seeded = true → ((new limit).run es).pending = [] := by
  induction es using List.reverseRecOn with
  | nil => simp [run, new]
  | append_singleton es e ih =>
    rw [run_append]
    exact pending_advance ih e

end DepthBook

end BookFeed.Book
