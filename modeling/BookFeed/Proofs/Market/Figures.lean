import BookFeed.Proofs.Market.Publication

set_option autoImplicit false

/-!
# Figures and the last price

A view puts its figures together from messages that leave out what has not changed. So each
figure is that of the last message that has it, whatever comes in between. The last price has a
second source: a price that is fetched along with a depth takes its place, and the next figures
with a price take that of the fetched one. Figures and book do not meet: what the figures are
follows from the messages with figures alone, and what the book holds from the other events
alone.

## Main definitions

* `BookFeed.Feed.Ticker.latest` — the last value of a figure in some messages.
* `BookFeed.Feed.Ticker.ofMessages` — the figures that some messages leave.
* `BookFeed.Market.ViewEvent.figures?`, `BookFeed.Market.ViewEvent.price?` — the figures that
  an event brings, and the last price that it installs.

## Main results

* `BookFeed.Feed.Ticker.ofMessages_concat` — a further message is merged into the figures.
* `BookFeed.Market.View.ticker_advance`, `BookFeed.Market.View.lastPrice_advance` — one event.
* `BookFeed.Market.View.ticker_run`, `BookFeed.Market.View.lastPrice_run` — a run.
* `BookFeed.Market.View.figures_last_written` — all of it, and that figures and book do not
  meet.
-/

namespace BookFeed.Feed.Ticker

/-! ### Messages -/

/-- The last value of a figure in some messages, each of which may leave it out. -/
def latest {α : Type} (figure : Ticker → Option α) (ts : List Ticker) : Option α :=
  (ts.filterMap figure).getLast?

/-- The figures that some messages leave: each of them that of the last message that has it. -/
def ofMessages (ts : List Ticker) : Ticker where
  lastPrice := latest lastPrice ts
  high := latest high ts
  low := latest low ts
  volume := latest volume ts
  quoteVolume := latest quoteVolume ts
  symbol := latest symbol ts

/-- A further message decides a figure if it has it. -/
theorem latest_concat {α : Type} (figure : Ticker → Option α) (ts : List Ticker) (t : Ticker) :
    latest figure (ts ++ [t]) = (figure t <|> latest figure ts) := by
  unfold latest
  cases h : figure t <;> simp [h]

/-- A further message is merged into the figures. -/
theorem ofMessages_concat (ts : List Ticker) (t : Ticker) :
    ofMessages (ts ++ [t]) = (ofMessages ts).merge t := by
  simp only [ofMessages, merge, latest_concat]

end BookFeed.Feed.Ticker

namespace BookFeed.Market

open Feed

/-! ### Events -/

/-- The figures that an event brings. -/
def ViewEvent.figures? : ViewEvent → Option Ticker
  | .event (.ticker t) => some t
  | _ => none

/-- The last price that an event installs: that of figures, if they have one, or the one that
was fetched along with a depth. -/
def ViewEvent.price? : ViewEvent → Option Decimal
  | .event (.ticker t) => t.lastPrice
  | .reseed (.ok _) (.ok p) => some p
  | _ => none

namespace View

/-- The figures change by messages with figures, and by nothing else. -/
theorem ticker_advance (v : View) (e : ViewEvent) :
    (v.advance e).state.ticker = e.figures?.elim v.state.ticker v.state.ticker.merge := by
  cases e with
  | event e =>
    rw [advance, state_onEvent]
    cases e <;> rfl
  | reseed depth price => cases depth <;> rfl

/-- The last price is the one that an event installs, or else what it was. -/
theorem lastPrice_advance (v : View) (e : ViewEvent) :
    (v.advance e).state.lastPrice = (e.price? <|> v.state.lastPrice) := by
  cases e with
  | event e =>
    rw [advance, state_onEvent]
    cases e <;> rfl
  | reseed depth price =>
    cases depth with
    | error e => rfl
    | ok d => cases price <;> rfl

/-! ### Runs -/

/-- The figures of a view are those that the messages with figures leave. -/
theorem ticker_run (market : String) (limit : ℕ) (es : List ViewEvent) :
    ((new market limit).run es).state.ticker =
      Ticker.ofMessages (es.filterMap ViewEvent.figures?) := by
  induction es using List.reverseRecOn with
  | nil => rfl
  | append_singleton es e ih =>
    rw [run_concat, ticker_advance, ih, List.filterMap_append]
    cases he : e.figures? with
    | none => simp [he]
    | some t => simp [he, Ticker.ofMessages_concat]

/-- The last price of a view is the one that was installed last. -/
theorem lastPrice_run (v : View) (es : List ViewEvent) :
    (v.run es).state.lastPrice =
      ((es.filterMap ViewEvent.price?).getLast? <|> v.state.lastPrice) := by
  induction es using List.reverseRecOn with
  | nil => rfl
  | append_singleton es e ih =>
    rw [run_concat, lastPrice_advance, ih, List.filterMap_append]
    cases he : e.price? <;> simp [he]

/-- **Figures are those written last, and do not meet the book.** A view of any market, whatever
number of batches may wait in it, takes batches of changes, figures, trades and fetched depths
and prices in any order. Then

* each figure is that of the last message that has it, and is absent only if no message has it;
* the last price is the one that was installed last, by figures with a price or by a price that
  was fetched along with a depth;
* what the view has published shows the same figures and the same last price;
* the figures are those that the messages with figures alone would have left;
* the book, with both sides, whether it has its snapshot and the batches that wait, is the one
  that the other events alone would have left.

**Proof sketch.** One event changes the figures only if it brings some, and then by a merge; it
changes the book only if it is no figures. So both are folds over the events that concern
them. -/
theorem figures_last_written (market : String) (limit : ℕ) (es : List ViewEvent) :
    let now := (new market limit).run es
    now.state.ticker = Ticker.ofMessages (es.filterMap ViewEvent.figures?) ∧
      now.state.lastPrice = (es.filterMap ViewEvent.price?).getLast? ∧
      now.published.ticker = now.state.ticker ∧
      now.published.lastPrice = now.state.lastPrice ∧
      ((new market limit).run (es.filter (·.isFigures))).state.ticker = now.state.ticker ∧
      ((new market limit).run (es.filter (!·.isFigures))).state.book = now.state.book := by
  intro now
  have hpublished : now.published = now.state.snapshot market :=
    published_eq_snapshot_run market limit es
  have hfigures : (es.filter (·.isFigures)).filterMap ViewEvent.figures? =
      es.filterMap ViewEvent.figures? := by
    rw [List.filterMap_filter]
    refine List.filterMap_congr fun e _ => ?_
    cases e with
    | event e => cases e <;> rfl
    | reseed depth price => rfl
  have hbook : (es.filter (!·.isFigures)).filterMap ViewEvent.onBook =
      es.filterMap ViewEvent.onBook := by
    rw [List.filterMap_filter]
    refine List.filterMap_congr fun e _ => ?_
    cases e with
    | event e => cases e <;> rfl
    | reseed depth price => rfl
  refine ⟨ticker_run market limit es, ?_, by rw [hpublished]; rfl, by rw [hpublished]; rfl, ?_,
    ?_⟩
  · rw [lastPrice_run]
    simp [new]
  · rw [ticker_run, hfigures, ← ticker_run]
  · rw [book_run, hbook, ← book_run]

end View

end BookFeed.Market
