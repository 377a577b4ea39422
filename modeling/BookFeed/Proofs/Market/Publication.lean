import Mathlib.Data.List.TakeWhile
import BookFeed.Proofs.Market.Run

set_option autoImplicit false

/-!
# What a view publishes, and when

Others see the snapshot that a view published last, so the view has to publish whenever
something changes that a snapshot shows. Not every event does: batches that wait for the first
depth stay unseen, trades change nothing, and a fetch without depth leaves the view as it was.
Those events return without publishing; what was published before them is still the snapshot of
the state.

How often a view has published can be read off its events alone: figures and fetched depths
count always, batches of changes count from the first fetched depth on.

## Main definitions

* `BookFeed.Market.ViewEvent.isFigures`, `isBatch`, `isSeed` — the kinds of events that count.
* `BookFeed.Market.State.shows` — an event changes what others see.
* `BookFeed.Market.View.batchesSinceSeed` — the batches from the first fetched depth on.

## Main results

* `BookFeed.Market.View.advance_of_shows`, `BookFeed.Market.View.advance_of_not_shows` — what
  is published for an event.
* `BookFeed.Market.View.snapshot_advance_of_not_shows` — an event that is not shown changes
  nothing that a snapshot shows.
* `BookFeed.Market.View.publications_run` — how often a view has published, by its events
  alone.
* `BookFeed.Market.View.published_never_stale` — the published sides, figures, last price and
  flag are those of the state, and the number of publications.
-/

namespace BookFeed.Market

open Book

/-! ### Kinds of events -/

namespace ViewEvent

/-- Figures come. -/
def isFigures : ViewEvent → Bool
  | .event (.ticker _) => true
  | _ => false

/-- A batch of changes comes. -/
def isBatch : ViewEvent → Bool
  | .event (.depth _) => true
  | _ => false

/-- A depth has been fetched. -/
def isSeed : ViewEvent → Bool
  | .reseed (.ok _) _ => true
  | _ => false

/-- A fetched depth is no batch of changes. -/
theorem isBatch_eq_false_of_isSeed {e : ViewEvent} (h : e.isSeed = true) : e.isBatch = false := by
  cases e with
  | event e => cases h
  | reseed depth price => rfl

end ViewEvent

/-- Whether an event changes what others see: batches that are applied, figures and fetched
depths do; batches that wait, trades and fetches without depth do not. -/
def State.shows (s : State) : ViewEvent → Bool
  | .event (.depth u) => (s.book.apply u).2 == .applied
  | .event (.ticker _) => true
  | .event (.trade _) => false
  | .reseed (.ok _) _ => true
  | .reseed (.error _) _ => false

/-- A batch is applied iff a depth has come before it. -/
theorem State.shows_batch (s : State) (u : DepthUpdate) :
    s.shows (.event (.depth u)) = s.book.seeded := by
  unfold State.shows DepthBook.apply
  cases s.book.seeded <;> rfl

namespace View

/-! ### One event -/

/-- An event that is shown is published once, with the state that it leads to. -/
theorem advance_of_shows {v : View} {e : ViewEvent} (h : v.state.shows e = true) :
    (v.advance e).published = (v.advance e).state.snapshot v.market ∧
      (v.advance e).publications = v.publications + 1 := by
  cases e with
  | event e =>
    cases e with
    | depth u =>
      have hseeded : v.state.book.seeded = true := by rwa [State.shows_batch] at h
      simp [advance, onEvent, publish, State.onEvent, DepthBook.apply, hseeded]
    | ticker t => exact ⟨rfl, rfl⟩
    | trade t => cases h
  | reseed depth price =>
    cases depth with
    | error e => cases h
    | ok d => exact ⟨rfl, rfl⟩

/-- An event that is not shown publishes nothing. -/
theorem advance_of_not_shows {v : View} {e : ViewEvent} (h : v.state.shows e = false) :
    (v.advance e).published = v.published ∧ (v.advance e).publications = v.publications := by
  cases e with
  | event e =>
    cases e with
    | depth u =>
      have hseeded : v.state.book.seeded = false := by rwa [State.shows_batch] at h
      simp [advance, onEvent, State.onEvent, DepthBook.apply, hseeded]
    | ticker t => cases h
    | trade t => exact ⟨rfl, rfl⟩
  | reseed depth price =>
    cases depth with
    | error e => exact ⟨rfl, rfl⟩
    | ok d => cases h

/-- An event that is not shown changes nothing that a snapshot shows: a batch that waits is kept
beside the levels, and the other events leave the state as it is. -/
theorem snapshot_advance_of_not_shows {v : View} {e : ViewEvent} (h : v.state.shows e = false)
    (market : String) : (v.advance e).state.snapshot market = v.state.snapshot market := by
  cases e with
  | event e =>
    cases e with
    | depth u =>
      have hseeded : v.state.book.seeded = false := by rwa [State.shows_batch] at h
      simp [advance, onEvent, State.onEvent, State.snapshot, DepthBook.apply, DepthBook.buffer,
        hseeded]
    | ticker t => cases h
    | trade t => rfl
  | reseed depth price =>
    cases depth with
    | error e => rfl
    | ok d => cases h

/-- The book of a view is seeded by fetched depths. -/
theorem seeded_advance (v : View) (e : ViewEvent) :
    (v.advance e).state.book.seeded = (v.state.book.seeded || e.isSeed) := by
  rw [book_advance]
  cases e with
  | event e =>
    cases e with
    | depth u =>
      simp only [ViewEvent.onBook, Option.elim_some, DepthBook.advance, DepthBook.apply]
      cases hseeded : v.state.book.seeded <;> simp [DepthBook.buffer, ViewEvent.isSeed, hseeded]
    | ticker t => simp [ViewEvent.onBook, ViewEvent.isSeed]
    | trade t => simp [ViewEvent.onBook, ViewEvent.isSeed]
  | reseed depth price =>
    cases depth with
    | error e => simp [ViewEvent.onBook, ViewEvent.isSeed]
    | ok d => simp [ViewEvent.onBook, ViewEvent.isSeed, DepthBook.advance, DepthBook.seed]

/-! ### Runs -/

/-- The book of a view is seeded once a depth has been fetched. -/
theorem seeded_run (market : String) (limit : ℕ) (es : List ViewEvent) :
    ((new market limit).run es).state.book.seeded = es.any ViewEvent.isSeed := by
  induction es using List.reverseRecOn with
  | nil => rfl
  | append_singleton es e ih =>
    rw [run_concat, seeded_advance, ih]
    simp

/-- How many events from the first fetched depth on are batches of changes. -/
def batchesSinceSeed (es : List ViewEvent) : ℕ :=
  (es.dropWhile (!·.isSeed)).countP ViewEvent.isBatch

/-- A further event counts as a batch since the first fetched depth if it is a batch and a depth
has been fetched before it. -/
theorem batchesSinceSeed_concat (es : List ViewEvent) (e : ViewEvent) :
    batchesSinceSeed (es ++ [e]) =
      batchesSinceSeed es + if es.any ViewEvent.isSeed && e.isBatch then 1 else 0 := by
  unfold batchesSinceSeed
  rw [List.dropWhile_append]
  by_cases hany : es.any ViewEvent.isSeed = true
  · -- the first fetched depth is among the old events, so the new one comes behind it
    have hne : (es.dropWhile (!·.isSeed)).isEmpty = false := by
      obtain ⟨x, hx, hseed⟩ := List.any_eq_true.1 hany
      rw [List.isEmpty_eq_false_iff]
      intro hnil
      have hall := List.dropWhile_eq_nil_iff.1 hnil x hx
      simp [hseed] at hall
    rw [hne, if_neg (by simp), List.countP_append, List.countP_singleton, hany, Bool.true_and]
  · have hnone : es.any ViewEvent.isSeed = false := Bool.eq_false_iff.2 hany
    have hnil : es.dropWhile (!·.isSeed) = [] := by
      rw [List.dropWhile_eq_nil_iff]
      intro x hx
      have hx' := List.any_eq_false.1 hnone x hx
      simpa using hx'
    have hlast : ([e].dropWhile (!·.isSeed)).countP ViewEvent.isBatch = 0 := by
      by_cases he : e.isSeed = true
      · have hbatch := ViewEvent.isBatch_eq_false_of_isSeed he
        simp [he, hbatch]
      · simp [he]
    rw [hnil, List.isEmpty_nil, if_pos rfl, hlast, hnone]
    simp

/-- An event is shown if it brings figures or a fetched depth, or a batch to a book that is
seeded. -/
theorem shows_eq (s : State) (e : ViewEvent) :
    (if s.shows e then 1 else 0) =
      (if e.isFigures then 1 else 0) + (if e.isSeed then 1 else 0) +
        (if s.book.seeded && e.isBatch then 1 else 0) := by
  cases e with
  | event e =>
    cases e with
    | depth u =>
      rw [State.shows_batch]
      simp [ViewEvent.isFigures, ViewEvent.isSeed, ViewEvent.isBatch]
    | ticker t => simp [State.shows, ViewEvent.isFigures, ViewEvent.isSeed, ViewEvent.isBatch]
    | trade t => simp [State.shows, ViewEvent.isFigures, ViewEvent.isSeed, ViewEvent.isBatch]
  | reseed depth price =>
    cases depth with
    | error e => simp [State.shows, ViewEvent.isFigures, ViewEvent.isSeed, ViewEvent.isBatch]
    | ok d => simp [State.shows, ViewEvent.isFigures, ViewEvent.isSeed, ViewEvent.isBatch]

/-- An event is published once if it is shown, and not at all otherwise. -/
theorem publications_advance (v : View) (e : ViewEvent) :
    (v.advance e).publications = v.publications + if v.state.shows e then 1 else 0 := by
  by_cases h : v.state.shows e = true
  · rw [(advance_of_shows h).2, if_pos h]
  · rw [(advance_of_not_shows (Bool.eq_false_iff.2 h)).2, if_neg h]
    rfl

/-- What is published is the snapshot of the state, after every event as it was before. -/
theorem published_eq_snapshot_advance {v : View} (h : v.published = v.state.snapshot v.market)
    (e : ViewEvent) : (v.advance e).published = (v.advance e).state.snapshot v.market := by
  by_cases hshows : v.state.shows e = true
  · exact (advance_of_shows hshows).1
  · have hnot : v.state.shows e = false := Bool.eq_false_iff.2 hshows
    calc (v.advance e).published
        = v.published := (advance_of_not_shows hnot).1
      _ = v.state.snapshot v.market := h
      _ = (v.advance e).state.snapshot v.market := (snapshot_advance_of_not_shows hnot _).symm

/-- What is published is the snapshot of the state, all along. -/
theorem published_eq_snapshot_run (market : String) (limit : ℕ) (es : List ViewEvent) :
    ((new market limit).run es).published = ((new market limit).run es).state.snapshot market := by
  induction es using List.reverseRecOn with
  | nil => rfl
  | append_singleton es e ih =>
    have hmarket : ((new market limit).run es).market = market := market_run _ es
    have hbefore : ((new market limit).run es).published =
        ((new market limit).run es).state.snapshot ((new market limit).run es).market := by
      rw [hmarket]
      exact ih
    have hstep := published_eq_snapshot_advance hbefore e
    rw [hmarket, ← run_concat] at hstep
    exact hstep

/-- How often a view has published, by the kinds of its events. -/
theorem publications_run (market : String) (limit : ℕ) (es : List ViewEvent) :
    ((new market limit).run es).publications =
      es.countP ViewEvent.isFigures + es.countP ViewEvent.isSeed + batchesSinceSeed es := by
  induction es using List.reverseRecOn with
  | nil => rfl
  | append_singleton es e ih =>
    have hstep := publications_advance ((new market limit).run es) e
    rw [← run_concat, ih, shows_eq, seeded_run] at hstep
    have hbatches := batchesSinceSeed_concat es e
    simp only [List.countP_append, List.countP_singleton]
    omega

/-- **What is published is never stale.** A view of any market, whatever number of batches may
wait in it, takes events of its streams and fetched depths and prices in any order. At every
moment the snapshot that it published last names the market and has what the state has at that
moment: the bids and the asks of the book, the figures, the last price, and whether a depth has
come. It has published once for each event with figures, once for each fetched depth and once
for each batch of changes since the first fetched depth. And whatever comes next is published
exactly once if it is a batch that is applied, figures or a fetched depth, and not at all if it
is a batch that waits, a trade or a fetch without depth.

**Proof sketch.** An event that is shown publishes the state that it leads to. An event that is
not shown publishes nothing, and leaves the snapshot of the state as it was: a batch that waits
is kept beside the levels. For the number, an event is shown by its kind alone, except that a
batch is shown if the book is seeded, which is so once a depth has been fetched. -/
theorem published_never_stale (market : String) (limit : ℕ) (es : List ViewEvent) :
    let now := (new market limit).run es
    (now.published.market = market ∧
        now.published.depth.bids = now.state.book.depth.bids ∧
        now.published.depth.asks = now.state.book.depth.asks ∧
        now.published.ticker = now.state.ticker ∧
        now.published.lastPrice = now.state.lastPrice ∧
        now.published.seeded = now.state.book.seeded) ∧
      now.publications =
        es.countP ViewEvent.isFigures + es.countP ViewEvent.isSeed + batchesSinceSeed es ∧
      ∀ e, (now.advance e).publications =
        now.publications + if now.state.shows e then 1 else 0 := by
  intro now
  have hpublished : now.published = now.state.snapshot market :=
    published_eq_snapshot_run market limit es
  refine ⟨?_, publications_run market limit es, publications_advance now⟩
  rw [hpublished]
  exact ⟨rfl, rfl, rfl, rfl, rfl, rfl⟩

end View

end BookFeed.Market
