import BookFeed.Proofs.Book.Replay

set_option autoImplicit false

/-!
# Batches that are lost

A book that has its snapshot can miss batches: they fall into the gap between two links, or a
snapshot that is older than they are replaces the levels that they changed. Nothing tells the
book what it missed. The harm stays at the prices that the missed batches named last: wherever
the last batch to name a price has arrived, or none has named it since the snapshot, the book
agrees with the server's, and so each price heals with the next batch that names it.

## Main definitions

* `BookFeed.Book.DepthUpdate.Names` — a batch has a change of a price.
* `BookFeed.Book.HasLast` — among the batches that arrived is the last one that names a price.

## Main results

* `BookFeed.Book.lastAt_changesOf_split` — the last batch that names a price decides it.
* `BookFeed.Book.loss_stays_local` — where a book that was seeded again agrees with the
  server.
-/

namespace BookFeed.Book

/-- Some change of the batch is of the price `q` on the side. -/
def DepthUpdate.Names (u : DepthUpdate) (side : Side) (q : ℚ) : Prop :=
  ∃ l ∈ u.changes side, l.price.value = q

instance (u : DepthUpdate) (side : Side) (q : ℚ) : Decidable (u.Names side q) :=
  inferInstanceAs (Decidable (∃ l ∈ u.changes side, l.price.value = q))

/-- Of the batches `us`, those in `received` have arrived, and among them is the last one that
names the price: around it stands a part of those before it and a part of those behind it. -/
def HasLast (received us : List DepthUpdate) (side : Side) (q : ℚ) : Prop :=
  ∃ before u behind kept kept', us = before ++ u :: behind ∧ received = kept ++ u :: kept' ∧
    kept.Sublist before ∧ kept'.Sublist behind ∧
    u.Names side q ∧ ∀ u' ∈ behind, ¬ u'.Names side q

/-- No change is of a price that no batch names. -/
theorem lastAt_changesOf_eq_none_iff (us : List DepthUpdate) (side : Side) (q : ℚ) :
    lastAt (changesOf us side) q = none ↔ ∀ u ∈ us, ¬ u.Names side q := by
  rw [lastAt_eq_none_iff]
  constructor
  · rintro h u hu ⟨l, hl, hq⟩
    exact h l (List.mem_flatMap.2 ⟨u, hu, hl⟩) hq
  · intro h l hl hq
    obtain ⟨u, hu, hlu⟩ := List.mem_flatMap.1 hl
    exact h u hu ⟨l, hlu, hq⟩

/-- The last batch that names a price has the last change of it, whatever came before. -/
theorem lastAt_changesOf_split {u : DepthUpdate} {side : Side} {q : ℚ} (hu : u.Names side q)
    (before : List DepthUpdate) {behind : List DepthUpdate}
    (hbehind : ∀ u' ∈ behind, ¬ u'.Names side q) :
    lastAt (changesOf (before ++ u :: behind) side) q = lastAt (u.changes side) q := by
  have hsome : lastAt (u.changes side) q ≠ none := fun h => by
    obtain ⟨l, hl, hq⟩ := hu
    exact (lastAt_eq_none_iff _ _).1 h l hl hq
  obtain ⟨l, hl⟩ := Option.ne_none_iff_exists'.1 hsome
  have hsplit : changesOf (before ++ u :: behind) side =
      changesOf before side ++ (u.changes side ++ changesOf behind side) := by
    simp [changesOf]
  rw [hsplit, lastAt_append, lastAt_append,
    (lastAt_changesOf_eq_none_iff behind side q).2 hbehind, hl]
  rfl

/-- Where the last batch to name a price has arrived, or none names it, the batches that arrived
have the same last change of it as all batches together. -/
theorem lastAt_changesOf_received {us received : List DepthUpdate} (hreceived : received.Sublist us)
    {side : Side} {q : ℚ}
    (hq : (∀ u ∈ us, ¬ u.Names side q) ∨ HasLast received us side q) :
    lastAt (changesOf received side) q = lastAt (changesOf us side) q := by
  rcases hq with hnone | ⟨before, u, behind, kept, kept', rfl, rfl, -, hkept', hu, hbehind⟩
  · rw [(lastAt_changesOf_eq_none_iff us side q).2 hnone]
    exact (lastAt_changesOf_eq_none_iff received side q).2 fun u hu => hnone u (hreceived.subset hu)
  · rw [lastAt_changesOf_split hu before hbehind]
    exact lastAt_changesOf_split hu kept fun u' hu' => hbehind u' (hkept'.subset hu')

/-- **Loss stays local and heals.** The server starts from the book `server` and does the
batches `us`. A local book has its snapshot and is in any state that batches and snapshots lead
to; it is seeded again with a snapshot of version `j`, however spelled and ordered, and of the
batches behind version `j` it then gets those in `received`. At each price that none of these
batches names, and at each price whose last batch is among those received, it ends with what the
server ends with.

**Proof sketch.** Nothing waits in a book that has its snapshot, so the local book ends as the
snapshot after `received`, the server as its version `j` after all batches behind it. Both
replays have the same last change of the price, if there is one; if there is none, the price is
what it is in the snapshot and at version `j`, and these are the same. -/
theorem loss_stays_local (server : Depth) (hserver : server.normalize = server)
    (us : List DepthUpdate) (j : ℕ) (snapshot : Depth)
    (hsnapshot : snapshot.normalize.Same (server.after (us.take j)))
    (limit : ℕ) (es : List DepthBook.Event)
    (hseeded : ((DepthBook.new limit).run es).seeded = true)
    (received : List DepthUpdate) (hreceived : received.Sublist (us.drop j)) (side : Side) (q : ℚ)
    (hq : (∀ u ∈ us.drop j, ¬ u.Names side q) ∨ HasLast received (us.drop j) side q) :
    quantityAt
        (((((DepthBook.new limit).run es).seed snapshot).feed received).depth.levels side) q =
      quantityAt ((server.after us).levels side) q := by
  have hbook := (Depth.normalize_eq_self_iff server).1 hserver
  have hlocal : ((((DepthBook.new limit).run es).seed snapshot).feed received).depth =
      snapshot.normalize.after received := by
    rw [DepthBook.depth_feed_seed, DepthBook.pending_run limit es hseeded, List.nil_append]
  have hremote : server.after us = (server.after (us.take j)).after (us.drop j) := by
    rw [← Depth.after_append, List.take_append_drop]
  -- the last changes are the same, so the two sides differ at most in what they start from
  rw [hlocal, hremote, quantityAt_after (Depth.isBook_normalize snapshot),
    quantityAt_after (hbook.after _), lastAt_changesOf_received hreceived hq,
    hsnapshot.quantityAt_eq side q]

/-- A level of whole numbers. -/
private def lot (price quantity : Fin 256) : Level :=
  ⟨.ofInt price (by have := price.isLt; omega),
    .ofInt quantity (by have := quantity.isLt; omega)⟩

/-- Four batches: the bid 100 goes, the bid 98 comes, the bid 100 comes back, the bid 98
goes. -/
private def comeAndGo : List DepthUpdate :=
  [{ bids := [lot 100 0] }, { bids := [lot 98 3] }, { bids := [lot 100 7] },
    { bids := [lot 98 0] }]

/-- A book that is seeded again with the first depth gets the third batch alone: the bid 100,
which it lacked in between, is what it is at the server. -/
theorem loss_stays_local_third_batch :
    Depth.normalize ⟨[lot 100 2], []⟩ = ⟨[lot 100 2], []⟩ ∧
      (Depth.normalize ⟨[lot 100 2], []⟩).Same
        (Depth.after ⟨[lot 100 2], []⟩ (comeAndGo.take 0)) ∧
      ((DepthBook.new 8).run [.apply {}, .seed ⟨[lot 90 1], []⟩]).seeded = true ∧
      ((comeAndGo.drop 2).take 1).Sublist (comeAndGo.drop 0) ∧
      HasLast ((comeAndGo.drop 2).take 1) (comeAndGo.drop 0) .bid 100 ∧
      quantityAt (((((DepthBook.new 8).run [.apply {}, .seed ⟨[lot 90 1], []⟩]).seed
        ⟨[lot 100 2], []⟩).feed ((comeAndGo.drop 2).take 1)).depth.levels .bid) 100 =
        quantityAt ((Depth.after ⟨[lot 100 2], []⟩ comeAndGo).levels .bid) 100 := by
  have hserver : Depth.normalize ⟨[lot 100 2], []⟩ = ⟨[lot 100 2], []⟩ := by
    decide +kernel
  have hsnapshot : (Depth.normalize ⟨[lot 100 2], []⟩).Same
      (Depth.after ⟨[lot 100 2], []⟩ (comeAndGo.take 0)) := by decide +kernel
  have hreceived : ((comeAndGo.drop 2).take 1).Sublist (comeAndGo.drop 0) := by decide +kernel
  have hlast : HasLast ((comeAndGo.drop 2).take 1) (comeAndGo.drop 0) .bid 100 :=
    ⟨comeAndGo.take 2, comeAndGo[2], comeAndGo.drop 3, [], [], rfl, rfl, List.nil_sublist _,
      List.nil_sublist _, by decide +kernel, by decide +kernel⟩
  exact ⟨hserver, hsnapshot, rfl, hreceived, hlast,
    loss_stays_local _ hserver comeAndGo 0 _ hsnapshot 8 _ rfl _ hreceived .bid 100
      (Or.inr hlast)⟩

/-- The bid 98 stays in a book that missed the batch that takes it away. -/
example : quantityAt ((((DepthBook.new 8).seed {}).feed (comeAndGo.take 3)).depth.levels .bid) 98 =
    some 3 ∧ quantityAt ((Depth.after {} comeAndGo).levels .bid) 98 = none := by decide +kernel

end BookFeed.Book
