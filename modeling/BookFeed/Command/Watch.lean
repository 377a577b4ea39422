import BookFeed.Command.Seed
import BookFeed.Session.Step

set_option autoImplicit false

/-!
# Following a market

A view of the market is opened, the stream is connected, and the view gets its first depth from
the server. If that fails it is tried once more at once. From then on every snapshot that the
view publishes is shown.

## Main definitions

* `BookFeed.Command.Watching` — a view on its way.
* `BookFeed.Command.watch` — following a market while texts come in.
-/

namespace BookFeed.Command

open BookFeed.Seed

/-- A view on its way. -/
structure Watching where
  /-- The stream and the view. -/
  session : Session.State
  /-- Who is asked for depth. -/
  client : Client
  /-- How many publications were shown or passed over. -/
  shown : Nat := 0
  /-- What was shown. -/
  updates : List String := []

/-- A snapshot as it is shown. -/
def snapshotLine (s : Market.Snapshot) : String :=
  s!"best_bid={figureText s.depth.bestBid} best_ask={figureText s.depth.bestAsk} " ++
    s!"last_price={figureText s.lastPrice} bids={s.depth.bids.length} asks={s.depth.asks.length}"

namespace Watching

/-- The name of the view. -/
def name : String := "market"

/-- The view. -/
def view? (w : Watching) : Option Market.View := (w.session.named? name).map (·.view)

/-- Open a view with settings, and connect the stream. -/
def start (s : Settings) (c : Client) : Watching :=
  let session : Session.State := { client := { manager := { config := s.connection } } }
  let session := (session.play (.openView name s.market s.seedBufferLimit {}) true).1
  { session := (session.play (.start [.ok]) false).1, client := c }

/-- The texts that the stream has taken. -/
def sent (w : Watching) : List String := w.session.manager.written.map (·.request.encode)

/-- Pass over what has been published. -/
def skip (w : Watching) : Watching :=
  { w with shown := (w.view?.map (·.publications)).getD w.shown }

/-- Show what was published last, if it has not been shown. -/
def display (w : Watching) : Watching :=
  match w.view? with
  | some v =>
    if w.shown < v.publications then
      { w.skip with updates := w.updates ++ [snapshotLine v.published] }
    else w
  | none => w

/-- Whether the view has its first depth. -/
def isSeeded (w : Watching) : Bool := (w.view?.map (·.state.book.seeded)).getD false

/-- Take what the server has answered. -/
def take (w : Watching) (depth : Except FetchError Book.Depth)
    (price : Except FetchError LatestPrice) : Watching :=
  match w.session.named? name with
  | some v =>
    let view := (v.view.reseed depth (price.map (·.price))).1
    { w with session := w.session.changeView v.number fun v => { v with view := view } }
  | none => w

/-- Take a text of the stream. -/
def receive (w : Watching) (text : String) : Watching :=
  { w with session := (w.session.play (.push text) false).1 }

/-- Ask the server for depth and price. -/
def ask {μ : Type → Type} [Monad μ] (w : Watching) (get : Getter μ) : μ Watching := do
  let depth ← w.client.depth get
  return w.take depth (← w.client.latestPrice get)

end Watching

/-- What following a market has brought about. -/
structure WatchReport where
  /-- What it leaves behind. -/
  result : Result := {}
  /-- The texts that the stream took at first. -/
  subscribed : List String := []
  /-- What was shown. -/
  updates : List String := []
deriving DecidableEq, Repr

/-- A report that a failure ends. -/
def WatchReport.failed (f : Fault) : WatchReport := { result := .of "" (.error f) }

/-- Follow a market with settings while texts come in. -/
def watch {μ : Type → Type} [Monad μ] (s : Settings) (get : Getter μ) (texts : List String) :
    μ WatchReport := do
  match s.check, Client.new s.seedUrl with
  | .error e, _ => return .failed (.ofFailure e)
  | _, .error e => return .failed (.ofFetch e)
  | .ok (), .ok c =>
    let w := Watching.start s c
    let subscribed := w.sent
    let w := (← w.ask get).skip
    let w ← if w.isSeeded then pure w else w.ask get
    let w := texts.foldl (fun w text => (w.receive text).display) w.display
    return { subscribed, updates := w.updates }

end BookFeed.Command
