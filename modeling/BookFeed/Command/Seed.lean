import BookFeed.Command.Result
import BookFeed.Seed.Client

set_option autoImplicit false

/-!
# Asking for everything once

Depth, latest price, trades and candles are asked for in this order, and each is summed up as
soon as it is there. The first failure ends it all.

## Main definitions

* `BookFeed.Command.seed` — what is written.
-/

namespace BookFeed.Command

open BookFeed.Seed

/-- A figure that may be absent. -/
def figureText : Option Decimal → String
  | some d => s!"Some({String.ofList d.text})"
  | none => "None"

/-- The summary of a depth. -/
def depthSummary (d : Book.Depth) : String :=
  s!"Depth: {d.bids.length} bids, {d.asks.length} asks, best bid {figureText d.bestBid}, " ++
    s!"best ask {figureText d.bestAsk}\n"

/-- The summary of a latest price. -/
def priceSummary (p : LatestPrice) : String :=
  let time := p.time.getD ""
  s!"Latest price: {String.ofList p.price.text} ({time})\n"

/-- A trade on a line. -/
def tradeLine (t : Trade) : String :=
  let quantity := (t.quantity.map fun q => String.ofList q.text).getD ""
  s!"  {String.ofList t.price.text} x {quantity}\n"

/-- The summary of trades: how many, and the first five. -/
def tradesSummary (ts : List Trade) : String :=
  s!"Trades: {ts.length}\n" ++ String.join ((ts.take 5).map tradeLine)

/-- The summary of candles: how many, and the close of the last one. -/
def candlesSummary (interval : String) (cs : List Candle) : String :=
  s!"Klines ({interval}): {cs.length}\n" ++
    match cs.getLast? with
    | some c => s!"  last close {String.ofList c.close.text}\n"
    | none => ""

/-- Something that writes and may fail. -/
abbrev Writing (μ : Type → Type) := ExceptT Fault (StateT String μ)

variable {μ : Type → Type} [Monad μ]

/-- Ask for something, and write its summary. -/
def summarize {α : Type} (ask : μ (Except FetchError α)) (summary : α → String) :
    Writing μ Unit := do
  match ← (liftM ask : StateT String μ (Except FetchError α)) with
  | .ok a => modify (· ++ summary a)
  | .error e => throw (.ofFetch e)

/-- Ask for everything. -/
def seedAll (s : Settings) (get : Getter μ) (interval : String) : Writing μ Unit := do
  match s.check with
  | .error e => throw (.ofFailure e)
  | .ok () =>
    match Client.new s.seedUrl with
    | .error e => throw (.ofFetch e)
    | .ok c =>
      summarize (c.depth get) depthSummary
      summarize (c.latestPrice get) priceSummary
      summarize (c.trades get) tradesSummary
      summarize (c.candles get interval) (candlesSummary interval)

/-- Ask for everything with settings, candles of an interval, and say what is left behind. -/
def seed (s : Settings) (get : Getter μ) (interval : String) : μ Result := do
  let (ended, out) ← (seedAll s get interval).run.run ""
  return .of out ended

end BookFeed.Command
