import BookFeed.Book.DepthBook
import BookFeed.Feed.Error
import BookFeed.Feed.StreamName
import BookFeed.Feed.Ticker
import BookFeed.Feed.TradeReport

set_option autoImplicit false

/-!
# Frames from the server

A frame names a stream and carries at most one event: changes of the book, figures or a trade.
Frames of other events are understood but carry nothing. All members of a frame are read before
it is decided what it carries.

## Main definitions

* `BookFeed.Feed.Event` — what a frame carries.
* `BookFeed.Feed.Inbound` — an event and its stream.
* `BookFeed.Feed.decode` — the event of a text.
-/

namespace BookFeed.Feed

open Json

/-- What a frame carries. -/
inductive Event where
  /-- Changes of the book. -/
  | depth (u : Book.DepthUpdate)
  /-- Figures of the market. -/
  | ticker (t : Ticker)
  /-- A trade. -/
  | trade (t : TradeReport)
deriving DecidableEq, Repr

/-- The channel that an event belongs to. -/
def Event.channel : Event → String
  | .depth _ => depthChannel
  | .ticker _ => tickerChannel
  | .trade _ => tradeChannel

/-- An event and its stream. -/
structure Inbound where
  /-- The name of the stream. -/
  stream : String
  /-- The event. -/
  event : Event
deriving DecidableEq, Repr

/-! ### The envelope -/

/-- The payload of a frame, whatever its event is. -/
structure Payload where
  /-- The word for the event. -/
  kind : Option String := none
  /-- Changes of bids. -/
  bids : List Book.Level := []
  /-- Changes of asks. -/
  asks : List Book.Level := []
  /-- The number of the batch. -/
  id : Option Nat := none
deriving DecidableEq, Repr, Inhabited

/-- How a payload is made up. -/
def Payload.record : Record Payload where
  name := "RawDepthData"
  fields :=
    [Member.of "e" (fun x p => { p with kind := x }) (Reader.optional Reader.string),
     Member.of "b" (fun x p => { p with bids := x }) (Reader.list Book.Level.read),
     Member.of "a" (fun x p => { p with asks := x }) (Reader.list Book.Level.read),
     Member.of "id" (fun x p => { p with id := x }) (Reader.optional Reader.natural)]
  initial := {}

/-- A frame as it stands in the text. -/
structure Frame where
  /-- The name of the stream. -/
  stream : String := ""
  /-- The payload of most events. -/
  payload : Option Payload := none
  /-- Figures. -/
  ticker : Option Ticker := none
  /-- A trade. -/
  trade : Option TradeReport := none
deriving DecidableEq, Repr, Inhabited

/-- How a frame is made up. -/
def Frame.record : Record Frame where
  name := "RawFrame"
  fields :=
    [(Member.of "stream" (fun x f => { f with stream := x }) Reader.string).demanded,
     Member.of "data" (fun x f => { f with payload := x })
       (Reader.optional Payload.record.read),
     Member.of "tickerdata" (fun x f => { f with ticker := x }) (Reader.optional Ticker.read),
     Member.of "tradedata" (fun x f => { f with trade := x }) (Reader.optional TradeReport.read)]
  initial := {}

/-- The changes that a payload carries, if its event is one of the book. -/
def Payload.depth? (p : Payload) : Option Book.DepthUpdate :=
  if p.kind = some depthChannel then some ⟨p.bids, p.asks, p.id⟩ else none

/-- The event of a frame: changes of the book come first, then figures, then a trade. -/
def Frame.event? (f : Frame) : Option Event :=
  (f.payload.bind Payload.depth?).map .depth <|> f.ticker.map .ticker <|> f.trade.map .trade

/-- Read a frame for the event that it carries. -/
def Frame.read : Reader (Option Inbound) := fun n => do
  let f ← Frame.record.read n
  return f.event?.map (⟨f.stream, ·⟩)

/-- The event of a text, if it carries one. -/
def decode (text : String) : Except DecodeError (Option Inbound) :=
  (Reader.run Frame.read text).mapError .malformed

end BookFeed.Feed
