set_option autoImplicit false

/-!
# Counters

## Main definitions

* `BookFeed.Connection.Counters` — what a connection counts.
* `BookFeed.Connection.Counters.since` — how much they have grown.
* `BookFeed.Connection.Metric`, `BookFeed.Connection.metrics` — names and descriptions.
-/

namespace BookFeed.Connection

/-- What a connection counts. -/
structure Counters where
  /-- Frames that came in. -/
  framesReceived : Nat := 0
  /-- Frames that were not understood. -/
  decodeErrors : Nat := 0
  /-- Frames that carried nothing. -/
  droppedUnknownEvent : Nat := 0
  /-- Events that nobody listened to. -/
  droppedUnknownStream : Nat := 0
  /-- Links that ended and attempts that failed. -/
  reconnects : Nat := 0
  /-- Requests that a link took. -/
  requestsSent : Nat := 0
  /-- Requests that had to wait. -/
  requestsBuffered : Nat := 0
  /-- Frames whose handling was timed. -/
  dispatchLatencies : Nat := 0
deriving DecidableEq, Repr, Inhabited

namespace Counters

/-- The counters by the names under which they are published. -/
def entries (c : Counters) : List (String × Nat) :=
  [("ws_frames_received_total", c.framesReceived),
   ("ws_decode_errors_total", c.decodeErrors),
   ("ws_messages_dropped_total|reason=unknown_event", c.droppedUnknownEvent),
   ("ws_messages_dropped_total|reason=unknown_stream", c.droppedUnknownStream),
   ("ws_reconnects_total", c.reconnects),
   ("ws_requests_sent_total", c.requestsSent),
   ("ws_requests_buffered_total", c.requestsBuffered),
   ("ws_dispatch_latency_ms", c.dispatchLatencies)]

/-- How much the counters have grown since `old`; those that have not are left out. -/
def since (c old : Counters) : List (String × Nat) :=
  (c.entries.zipWith (fun a b => (a.1, a.2 - b.2)) old.entries).filter (·.2 != 0)

end Counters

/-- How a metric is published. -/
inductive MetricType where
  /-- A number that only grows. -/
  | counter
  /-- A distribution of values. -/
  | histogram
deriving DecidableEq, Repr

/-- The word for a type of metric. -/
def MetricType.name : MetricType → String
  | .counter => "counter"
  | .histogram => "histogram"

/-- A metric as it is published. -/
structure Metric where
  /-- How it is published. -/
  type : MetricType
  /-- Its name. -/
  name : String
  /-- What it says. -/
  description : String
deriving DecidableEq, Repr

/-- All metrics, by name. -/
def metrics : List Metric :=
  [⟨.counter, "seed_fetch_errors_total", "Total number of failed seed snapshot fetches"⟩,
   ⟨.histogram, "seed_fetch_latency_ms", "Seed snapshot fetch latency in milliseconds"⟩,
   ⟨.counter, "ws_decode_errors_total",
     "Total number of WebSocket frames that failed to decode"⟩,
   ⟨.histogram, "ws_dispatch_latency_ms",
     "Frame decode and dispatch latency in milliseconds"⟩,
   ⟨.counter, "ws_frames_received_total", "Total number of WebSocket frames received"⟩,
   ⟨.counter, "ws_messages_dropped_total",
     "Total number of decoded messages with no consumer"⟩,
   ⟨.counter, "ws_reconnects_total", "Total number of WebSocket reconnections"⟩,
   ⟨.counter, "ws_requests_buffered_total",
     "Total number of requests buffered until the transport opened"⟩,
   ⟨.counter, "ws_requests_sent_total",
     "Total number of requests written to the transport"⟩]

end BookFeed.Connection
