import BookFeed.Connection.Manager
import BookFeed.Text.Blank
import BookFeed.Url.Read

set_option autoImplicit false

/-!
# Settings

Where the stream and the server are, which market is followed, and how long to wait.

## Main definitions

* `BookFeed.Settings` — the settings.
* `BookFeed.Settings.validate` — whether they can be worked with.
-/

namespace BookFeed

/-- What the program works with. -/
structure Settings where
  /-- Where the stream is. -/
  streamUrl : String := "ws://localhost:3001/v1/ws"
  /-- Where the server is that is asked for snapshots. -/
  seedUrl : String := "http://localhost:8080/v1"
  /-- The market. -/
  market : String := "SOL_USD"
  /-- From the end of a link to the next attempt, in milliseconds. -/
  reconnectDelay : Nat := 100
  /-- Between two repetitions of a subscription, in milliseconds. -/
  resubscribeInterval : Nat := 5000
  /-- How long to wait for an answer of the server, in milliseconds. -/
  httpTimeout : Nat := 5000
  /-- How many changes are kept until the first snapshot. -/
  seedBufferLimit : Nat := 1024
  /-- What is logged. -/
  logFilter : String := "info"
  /-- Whether more is logged. -/
  verbose : Bool := false
deriving DecidableEq, Repr

namespace Settings

/-- Why settings cannot be worked with. -/
inductive Invalid where
  /-- The address of the stream is no URL. -/
  | streamUrl (e : Url.Error)
  /-- The address of the stream has another scheme. -/
  | streamScheme
  /-- The address of the server is no URL. -/
  | seedUrl (e : Url.Error)
  /-- There is no market. -/
  | market
  /-- There is no delay before a new attempt. -/
  | reconnectDelay
  /-- There is no time between repetitions of a subscription. -/
  | resubscribeInterval
deriving DecidableEq, Repr

/-- The wording of a fault of the settings. -/
def Invalid.message : Invalid → String
  | .streamUrl e => s!"MIRROR_WS_URL: {e.message}"
  | .streamScheme => "MIRROR_WS_URL must use ws:// or wss://"
  | .seedUrl e => s!"MIRROR_HTTP_URL: {e.message}"
  | .market => "MIRROR_MARKET is required"
  | .reconnectDelay => "RECONNECT_DELAY_MS must be greater than 0"
  | .resubscribeInterval => "RESUBSCRIBE_INTERVAL_MS must be greater than 0"

/-- The schemes of streams. -/
def streamSchemes : List (List Char) := ["ws".toList, "wss".toList]

/-- Whether settings can be worked with. Of several faults the first one is told, in the order
of the settings. -/
def validate (s : Settings) : Except Invalid Unit := do
  match Url.parse s.streamUrl.toList with
  | .error e => throw (.streamUrl e)
  | .ok url => if !streamSchemes.contains url.scheme then throw .streamScheme
  match Url.parse s.seedUrl.toList with
  | .error e => throw (.seedUrl e)
  | .ok _ => pure ()
  if (Text.trim s.market.toList).isEmpty then throw .market
  if s.reconnectDelay == 0 then throw .reconnectDelay
  if s.resubscribeInterval == 0 then throw .resubscribeInterval

/-- How long a connection waits. -/
def connection (s : Settings) : Connection.Config where
  reconnectDelay := s.reconnectDelay
  resubscribeInterval := s.resubscribeInterval

end Settings

end BookFeed
