import BookFeed.Feed.Frame
import BookFeed.Seed.Price

set_option autoImplicit false

/-!
# The view of one market

A view keeps the book and the figures of one market up to date. It starts empty, is fed with the
events of two streams, and takes its first full depth from another source. What others see of it
is the snapshot that it published last.

## Main definitions

* `BookFeed.Market.State` — book, figures and last price.
* `BookFeed.Market.Snapshot` — what is published.
* `BookFeed.Market.View` — the state and the published snapshot.
* `BookFeed.Market.View.onEvent`, `BookFeed.Market.View.reseed` — what changes a view.
-/

namespace BookFeed.Market

open Book Feed

/-- Book, figures and last price of a market. -/
structure State where
  /-- The book. -/
  book : DepthBook
  /-- The figures. -/
  ticker : Ticker := {}
  /-- The last price that is known. -/
  lastPrice : Option Decimal := none
deriving DecidableEq, Repr

/-- What a view publishes. -/
structure Snapshot where
  /-- The market. -/
  market : String
  /-- The levels of both sides. -/
  depth : Depth := {}
  /-- The figures. -/
  ticker : Ticker := {}
  /-- The last price that is known. -/
  lastPrice : Option Decimal := none
  /-- Whether a full depth has come. -/
  seeded : Bool := false
deriving DecidableEq, Repr

namespace State

/-- Take figures: those that are there replace the old ones. -/
def mergeTicker (s : State) (t : Ticker) : State :=
  { s with ticker := s.ticker.merge t, lastPrice := t.lastPrice <|> s.lastPrice }

/-- The snapshot of a state. -/
def snapshot (s : State) (market : String) : Snapshot :=
  ⟨market, s.book.depth, s.ticker, s.lastPrice, s.book.seeded⟩

/-- Take an event, and say whether there is something to publish: changes that wait for the
first depth are not seen from outside, and trades change nothing. -/
def onEvent (s : State) : Event → State × Bool
  | .depth u =>
    let (book, outcome) := s.book.apply u
    ({ s with book := book }, outcome == .applied)
  | .ticker t => (s.mergeTicker t, true)
  | .trade _ => (s, false)

/-- Take a full depth, and a price if there is one. -/
def seed (s : State) (depth : Depth) (price : Option Decimal) : State :=
  { s with book := s.book.seed depth, lastPrice := price <|> s.lastPrice }

end State

/-- The view of one market. -/
structure View where
  /-- The market. -/
  market : String
  /-- What is known. -/
  state : State
  /-- What was published last. -/
  published : Snapshot
  /-- How often something was published. -/
  publications : Nat := 0
deriving DecidableEq, Repr

namespace View

/-- A view that has seen nothing; `limit` batches of changes may wait for the first depth. -/
def new (market : String) (limit : Nat) : View where
  market := market
  state := { book := DepthBook.new limit }
  published := { market := market }

/-- Publish the state. -/
def publish (v : View) : View :=
  { v with published := v.state.snapshot v.market, publications := v.publications + 1 }

/-- Take an event of one of the two streams. -/
def onEvent (v : View) (e : Event) : View :=
  let (state, changed) := v.state.onEvent e
  let v := { v with state := state }
  if changed then v.publish else v

/-- Take what was fetched from another source: depth, and perhaps a price. Without depth nothing
happens at all. -/
def reseed {ε ε' : Type} (v : View) (depth : Except ε Depth) (price : Except ε' Decimal) :
    View × Except ε Unit :=
  match depth with
  | .error e => (v, .error e)
  | .ok d =>
    (publish { v with state := v.state.seed d price.toOption }, .ok ())

/-- The streams of a market that a view listens to, with the kind of each. -/
def streams (market : String) : List (StreamName × String) :=
  [(.depth market, "DEPTH"), (.ticker market, "TICKER")]

/-- The identity of a view at one of its streams. Views are numbered, so that several of one
market can be told apart. -/
def identity (kind market : String) (number : Nat) : String :=
  s!"{kind}-{market}-{number}"

end View

end BookFeed.Market
