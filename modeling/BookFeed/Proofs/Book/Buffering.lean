import Mathlib.Data.List.DropRight
import BookFeed.Proofs.Book.Replay

set_option autoImplicit false

/-!
# A book that waits ends as one that was seeded first

What a book holds after any batches and snapshots is written down here from the list of events
alone, without the book: how many of the batches wait, and from which snapshot and which batches
its levels come. Batches wait for the first snapshot only, and are done on top of it once; so a
book that had to wait ends as a book that had its snapshot at the start and then got the batches
that were kept.

## Main definitions

* `BookFeed.Book.DepthBook.batches`, `BookFeed.Book.DepthBook.snapshots` — what the events
  bring.
* `BookFeed.Book.DepthBook.early`, `BookFeed.Book.DepthBook.recent` — the batches before the
  first snapshot, and those behind the latest one.
* `BookFeed.Book.DepthBook.kept` — the batches that a book has room for.
* `BookFeed.Book.DepthBook.ofEvents` — the book that events lead to.

## Main results

* `BookFeed.Book.DepthBook.run_new` — a book holds what its events say.
* `BookFeed.Book.DepthBook.waits_as_seeded_first` — a book that had to wait ends as one that
  was seeded first.
-/

namespace BookFeed.Book.DepthBook

/-! ### What events bring -/

/-- The batch that an event brings. -/
def Event.batch? : Event → Option DepthUpdate
  | .apply u => some u
  | .seed _ => none

/-- The snapshot that an event brings. -/
def Event.snapshot? : Event → Option Depth
  | .apply _ => none
  | .seed snapshot => some snapshot

/-- The batches that come, in order. -/
def batches (es : List Event) : List DepthUpdate := es.filterMap Event.batch?

/-- The snapshots that come, in order. -/
def snapshots (es : List Event) : List Depth := es.filterMap Event.snapshot?

/-- The batches that come before the first snapshot. -/
def early (es : List Event) : List DepthUpdate := batches (es.takeWhile (·.snapshot?.isNone))

/-- The batches that come behind the latest snapshot. -/
def recent (es : List Event) : List DepthUpdate := batches (es.rtakeWhile (·.snapshot?.isNone))

/-- The latest of some batches, as many as there is room for. -/
def kept (limit : ℕ) (us : List DepthUpdate) : List DepthUpdate :=
  us.rtake (min us.length (max limit 1))

theorem batches_concat_apply (es : List Event) (u : DepthUpdate) :
    batches (es ++ [.apply u]) = batches es ++ [u] := by
  simp [batches, Event.batch?]

theorem snapshots_concat_apply (es : List Event) (u : DepthUpdate) :
    snapshots (es ++ [.apply u]) = snapshots es := by
  simp [snapshots, Event.snapshot?]

theorem snapshots_concat_seed (es : List Event) (snapshot : Depth) :
    snapshots (es ++ [.seed snapshot]) = snapshots es ++ [snapshot] := by
  simp [snapshots, Event.snapshot?]

theorem snapshots_eq_nil_iff (es : List Event) :
    snapshots es = [] ↔ ∀ e ∈ es, e.snapshot?.isNone = true := by
  simp [snapshots]

/-- Once there is a snapshot, no further batch is early. -/
theorem early_concat {es : List Event} (h : snapshots es ≠ []) (e : Event) :
    early (es ++ [e]) = early es := by
  have hstop : (es.takeWhile (·.snapshot?.isNone)).length ≠ es.length := fun hlen => by
    have hall := (List.takeWhile_prefix fun e : Event => e.snapshot?.isNone).eq_of_length hlen
    exact h ((snapshots_eq_nil_iff es).2 (List.takeWhile_eq_self_iff.1 hall))
  rw [early, List.takeWhile_append, if_neg hstop, early]

theorem early_concat_seed {es : List Event} (h : snapshots es = []) (snapshot : Depth) :
    early (es ++ [.seed snapshot]) = batches es := by
  rw [early, List.takeWhile_append_of_pos ((snapshots_eq_nil_iff es).1 h)]
  simp [Event.snapshot?]

theorem recent_concat_apply (es : List Event) (u : DepthUpdate) :
    recent (es ++ [.apply u]) = recent es ++ [u] := by
  simp [recent, Event.snapshot?, batches_concat_apply]

theorem recent_concat_seed (es : List Event) (snapshot : Depth) :
    recent (es ++ [.seed snapshot]) = [] := by
  simp [recent, Event.snapshot?, batches]

/-! ### What a book holds -/

/-- The batches that a book keeps are those behind the ones that it has no room for. -/
theorem kept_eq_drop (limit : ℕ) (us : List DepthUpdate) :
    kept limit us = us.drop (us.length - max limit 1) := by
  rw [kept, List.rtake]
  congr 1
  omega

/-- Without a snapshot, a run is its batches. -/
theorem run_eq_feed {es : List Event} (h : snapshots es = []) (b : DepthBook) :
    b.run es = b.feed (batches es) := by
  induction es generalizing b with
  | nil => rfl
  | cons e es ih =>
    cases e with
    | apply u => exact ih h (b.apply u).1
    | seed snapshot => exact absurd h (List.cons_ne_nil _ _)

/-- The book that events lead to, from the list of events alone. It has its snapshot iff one has
come. While none has come, the latest batches wait, as many as there is room for; then none. Its
levels are those of the latest snapshot, put in order, with the batches behind that snapshot
done on top, and before them, if it is the first, the batches that waited for it. -/
def ofEvents (limit : ℕ) (es : List Event) : DepthBook where
  limit := max limit 1
  seeded := !(snapshots es).isEmpty
  pending := if (snapshots es).isEmpty then kept limit (batches es) else []
  depth := match (snapshots es).getLast? with
    | none => {}
    | some latest => latest.normalize.after
        ((if (snapshots es).length = 1 then kept limit (early es) else []) ++ recent es)

/-- A book holds what its events say.

**Proof sketch.** Induction on the events, from their end. Before a snapshot, a run is its
batches, and `feed_new` says what they leave. A snapshot that comes is the latest one, with
nothing behind it; what waited is what was kept of the early batches if it is the first, and
nothing otherwise. A batch that comes behind a snapshot is done on top of all others and changes
none of the rest. -/
theorem run_new (limit : ℕ) (es : List Event) : (new limit).run es = ofEvents limit es := by
  induction es using List.reverseRecOn with
  | nil => simp [run, new, ofEvents, snapshots, batches, kept]
  | append_singleton es e ih =>
    rcases List.eq_nil_or_concat' (snapshots es) with hnone | ⟨front, latest, hsome⟩
    · cases e with
      | apply u =>
        have hnone' : snapshots (es ++ [.apply u]) = [] := by rw [snapshots_concat_apply, hnone]
        rw [run_eq_feed hnone', feed_new, ← kept_eq_drop, ofEvents, hnone']
        rfl
      | seed snapshot =>
        rw [run_append, ih, ofEvents, ofEvents, snapshots_concat_seed, early_concat_seed hnone,
          recent_concat_seed, hnone]
        simp [run, advance, seed, Depth.after]
    · have hne : snapshots es ≠ [] := by simp [hsome]
      cases e with
      | apply u =>
        rw [run_append, ih, ofEvents, ofEvents, snapshots_concat_apply, early_concat hne,
          recent_concat_apply, hsome]
        simp [run, advance, apply, Depth.after]
      | seed snapshot =>
        rw [run_append, ih, ofEvents, ofEvents, snapshots_concat_seed, recent_concat_seed, hsome]
        simp [run, advance, seed, Depth.after]

/-- A book with room for nothing keeps the latest batch all the same. -/
example (u v : DepthUpdate) : ((new 0).run [.apply u, .apply v]).pending = [v] := rfl

/-- A book that was seeded first and then gets the batches that a waiting book keeps ends as the
waiting book does. -/
theorem feed_seed_feed_new (limit : ℕ) (us : List DepthUpdate) (snapshot : Depth)
    (us' : List DepthUpdate) :
    (((new limit).feed us).seed snapshot).feed us' =
      ((new limit).seed snapshot).feed (kept limit us ++ us') := by
  have hseeded (b : DepthBook) : (b.seed snapshot).seeded = true := rfl
  rw [feed_of_seeded (hseeded _), feed_of_seeded (hseeded _), feed_new, ← kept_eq_drop]
  simp [seed, new, Depth.after]

/-- **A book that waits ends as one that was seeded first.** A book with room for `max limit 1`
batches gets any events `es`. While no snapshot has come it has no levels, and the latest
batches wait in it, as many as there is room for; from the first snapshot on it is seeded and
nothing waits. Its levels are those of the latest snapshot, put in order, with the batches
behind that snapshot done on top, and before them, if it is the first, the batches that waited
for it. So batches `us`, a snapshot and further batches `us'` lead to the very book that the
snapshot leads to when it comes first and is followed by the batches that were kept and the
further ones. -/
theorem waits_as_seeded_first (limit : ℕ) (es : List Event) (us : List DepthUpdate)
    (snapshot : Depth) (us' : List DepthUpdate) :
    (new limit).run es = ofEvents limit es ∧
      (((new limit).feed us).seed snapshot).feed us' =
        ((new limit).seed snapshot).feed (kept limit us ++ us') :=
  ⟨run_new limit es, feed_seed_feed_new limit us snapshot us'⟩

end BookFeed.Book.DepthBook
