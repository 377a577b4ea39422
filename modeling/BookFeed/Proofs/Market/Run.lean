import BookFeed.Market.View
import BookFeed.Proofs.Book.Best
import BookFeed.Seed.Error

set_option autoImplicit false

/-!
# Runs of a view

A view takes the events of its two streams and what is fetched for it, in any order. Its book
sees the batches of changes and the depths that were fetched, and nothing else; and what is
published is, at any time, the state at some moment of the run, or nothing yet. So what others
see is a book, whatever lists of levels the view was fed with.

## Main definitions

* `BookFeed.Market.ViewEvent` — what can happen to a view.
* `BookFeed.Market.View.run` — a view after some events.
* `BookFeed.Market.ViewEvent.onBook` — what an event is to the book.

## Main results

* `BookFeed.Market.View.book_run` — the book of a view is the run of a book.
* `BookFeed.Market.View.published_advance` — an event publishes the new state, or nothing.
* `BookFeed.Market.View.published_readable` — what is published is a book.
-/

namespace BookFeed.Market

open Book

/-- What can happen to a view. -/
inductive ViewEvent where
  /-- An event of one of its streams comes. -/
  | event (e : Feed.Event)
  /-- A depth and a price were to be fetched, each of them with or without success. -/
  | reseed (depth : Except Seed.FetchError Depth) (price : Except Seed.FetchError Decimal)

/-- What an event is to the book of the view. -/
def ViewEvent.onBook : ViewEvent → Option DepthBook.Event
  | .event (.depth u) => some (.apply u)
  | .event (.ticker _) => none
  | .event (.trade _) => none
  | .reseed (.ok d) _ => some (.seed d)
  | .reseed (.error _) _ => none

namespace View

/-- A view after an event. -/
def advance (v : View) : ViewEvent → View
  | .event e => v.onEvent e
  | .reseed depth price => (v.reseed depth price).1

/-- A view after some events. -/
def run (v : View) (es : List ViewEvent) : View := es.foldl advance v

theorem run_concat (v : View) (es : List ViewEvent) (e : ViewEvent) :
    v.run (es ++ [e]) = (v.run es).advance e := by
  simp [run]

/-- A view stays the view of its market. -/
theorem market_advance (v : View) (e : ViewEvent) : (v.advance e).market = v.market := by
  cases e with
  | event e =>
    simp only [advance, onEvent]
    split <;> rfl
  | reseed depth price => cases depth <;> rfl

/-- A view stays the view of its market in every run. -/
theorem market_run (v : View) (es : List ViewEvent) : (v.run es).market = v.market := by
  induction es using List.reverseRecOn with
  | nil => rfl
  | append_singleton es e ih => rw [run_concat, market_advance, ih]

/-- Whether or not it is published, an event brings the state that it leads to. -/
theorem state_onEvent (v : View) (e : Feed.Event) :
    (v.onEvent e).state = (v.state.onEvent e).1 := by
  rcases h : v.state.onEvent e with ⟨state, changed⟩
  cases changed <;> simp [onEvent, publish, h]

/-- The book sees batches of changes and depths, and nothing else. -/
theorem book_advance (v : View) (e : ViewEvent) :
    (v.advance e).state.book = e.onBook.elim v.state.book v.state.book.advance := by
  cases e with
  | event e =>
    rw [advance, state_onEvent]
    cases e <;> rfl
  | reseed depth price => cases depth <;> rfl

/-- The book of a view is the run of a book. -/
theorem book_run (v : View) (es : List ViewEvent) :
    (v.run es).state.book = v.state.book.run (es.filterMap ViewEvent.onBook) := by
  induction es using List.reverseRecOn with
  | nil => rfl
  | append_singleton es e ih =>
    rw [run_concat, book_advance, ih, List.filterMap_append, DepthBook.run_append]
    cases he : e.onBook with
    | none => simp [he, DepthBook.run]
    | some d => simp [he, DepthBook.run]

/-- An event publishes the state that it leads to, or nothing. -/
theorem published_advance (v : View) (e : ViewEvent) :
    (v.advance e).published = v.published ∨
      (v.advance e).published = (v.advance e).state.snapshot (v.advance e).market := by
  cases e with
  | event e =>
    simp only [advance, onEvent]
    split
    · exact Or.inr rfl
    · exact Or.inl rfl
  | reseed depth price =>
    cases depth with
    | error e => exact Or.inl rfl
    | ok d => exact Or.inr rfl

/-- The depth of a view is a book all along. -/
theorem isBook_run (market : String) (limit : ℕ) (es : List ViewEvent) :
    ((new market limit).run es).state.book.depth.IsBook := by
  rw [book_run]
  exact DepthBook.isBook_run limit _

/-- **What is published is a book.** A view of any market, whatever number of batches may wait
in it, takes events of its streams and fetched depths and prices in any order; the lists of
levels in them may have any order, prices more than once, quantities of zero and any spelling of
a number. At each moment a reader can rely on the published depth: neighbouring levels compare
strictly, no two prices of a side are one number, no quantity is zero, and the first level of a
side has its best price.

**Proof sketch.** The depth of the state is a book after each event, since a batch of changes
and a fetched depth both go through a merge, which makes sides of any lists. What is published
is what was published before or the depth of the state. -/
theorem published_readable (market : String) (limit : ℕ) (es : List ViewEvent) :
    ((new market limit).run es).published.depth.Readable := by
  refine Depth.IsBook.readable ?_
  induction es using List.reverseRecOn with
  | nil => exact Depth.isBook_empty
  | append_singleton es e ih =>
    have hstate := isBook_run market limit (es ++ [e])
    rw [run_concat] at hstate ⊢
    rcases published_advance ((new market limit).run es) e with hsame | hstep
    · rw [hsame]
      exact ih
    · rw [hstep]
      exact hstate

end View

end BookFeed.Market
