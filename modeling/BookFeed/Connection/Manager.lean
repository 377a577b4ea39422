import BookFeed.Connection.Metrics
import BookFeed.Connection.Outbox
import BookFeed.Feed.Frame
import BookFeed.Feed.Registry

set_option autoImplicit false

/-!
# The connection manager

One link carries many streams. The manager joins the outbox, the registry of listeners and the
counters, and keeps a record of all that links have taken. Callbacks are whatever `κ` is;
running one is left to the caller.

## Main definitions

* `BookFeed.Connection.Config` — the two delays.
* `BookFeed.Connection.Manager` — outbox, registry, counters and record.
* `BookFeed.Connection.Manager.submit`, `ready`, `closed`, `connecting`, `dropped` — the side
  of the link.
* `BookFeed.Connection.Manager.process`, `BookFeed.Connection.Manager.handle` — frames that
  come in.
-/

namespace BookFeed.Connection

open Feed

/-- The delays of a connection, in milliseconds. -/
structure Config where
  /-- From the end of a link to the next attempt. -/
  reconnectDelay : Nat := 100
  /-- Between two repetitions of a subscription. -/
  resubscribeInterval : Nat := 5000
deriving DecidableEq, Repr

/-- A text that a link took. -/
structure Written where
  /-- The number of the link. -/
  link : Nat
  /-- The request. -/
  request : Request
deriving DecidableEq, Repr

/-- The connection manager. -/
structure Manager (κ : Type) where
  /-- The delays. -/
  config : Config := {}
  /-- Requests that wait, wanted streams and the link. -/
  outbox : Outbox := {}
  /-- Who listens. -/
  registry : Registry κ := {}
  /-- How many links there have been. -/
  connections : Nat := 0
  /-- What has been counted. -/
  counters : Counters := {}
  /-- All that links have taken, the oldest first. -/
  written : List Written := []

/-- Why an incoming text reaches nobody. -/
inductive FrameError where
  /-- It is not understood. -/
  | decode (e : DecodeError)
  /-- Nobody listens to its stream. -/
  | unknownStream (e : UnknownStream)
deriving DecidableEq, Repr

/-- The wording of a frame error. -/
def FrameError.message : FrameError → String
  | .decode e => s!"decode error: {e.message}"
  | .unknownStream e => s!"unknown stream: {e.message}"

namespace Manager

variable {κ : Type}

/-! ### Requests -/

/-- Record what a link took. -/
def record (m : Manager κ) (link : Nat) (rs : List Request) : Manager κ :=
  { m with
    written := m.written ++ rs.map (⟨link, ·⟩)
    counters := { m.counters with requestsSent := m.counters.requestsSent + rs.length } }

/-- Submit a request; the answer is its number. -/
def submit (m : Manager κ) (r : Request) : Manager κ × Nat :=
  let (outbox, s) := m.outbox.submit r
  let m := { m with outbox := outbox }
  let m := match s.takenBy with
    | some link => m.record link [s.request]
    | none =>
      { m with
        counters := { m.counters with requestsBuffered := m.counters.requestsBuffered + 1 } }
  (m, s.request.id.getD 0)

/-! ### The link -/

/-- A link is being made. -/
def connecting (m : Manager κ) : Manager κ := { m with outbox := m.outbox.connecting }

/-- The link has ended, or the manager is told to do without one. -/
def closed (m : Manager κ) : Manager κ := { m with outbox := m.outbox.closed }

/-- A link has ended or an attempt has failed, and there will be another one. -/
def dropped (m : Manager κ) : Manager κ :=
  { m.closed with counters := { m.counters with reconnects := m.counters.reconnects + 1 } }

/-- A new link is ready. -/
def ready (m : Manager κ) (s : Sink) : Manager κ :=
  let (outbox, taken) := m.outbox.ready s
  { m with outbox := outbox, connections := m.connections + 1 }.record s.link taken

/-- A link takes nothing any more. -/
def stop (m : Manager κ) (link : Nat) : Manager κ := { m with outbox := m.outbox.stop link }

/-! ### Listeners -/

/-- Add a listener without a request. -/
def register (m : Manager κ) (stream identity : String) (callback : κ) : Manager κ × Bool :=
  let (registry, replaced) := m.registry.register stream identity callback
  ({ m with registry := registry }, replaced)

/-- Remove a listener without a request. -/
def deregister (m : Manager κ) (stream identity : String) : Manager κ × Bool :=
  let (registry, removed) := m.registry.deregister stream identity
  ({ m with registry := registry }, removed)

/-! ### Frames -/

/-- Run the callbacks for the event of a text, and count them; a text that carries no event
reaches nobody. -/
def process {μ : Type → Type} [Monad μ] (m : Manager κ) (text : String)
    (run : κ → Event → μ Unit) : μ (Except FrameError Nat) :=
  match decode text with
  | .error e => return .error (.decode e)
  | .ok none => return .ok 0
  | .ok (some i) => do
    match ← m.registry.dispatch i.stream (run · i.event) with
    | .ok n => return .ok n
    | .error e => return .error (.unknownStream e)

/-- Count that a text has come in. Its handling is timed whatever becomes of it. -/
def received (m : Manager κ) : Manager κ :=
  { m with
    counters :=
      { m.counters with
        framesReceived := m.counters.framesReceived + 1
        dispatchLatencies := m.counters.dispatchLatencies + 1 } }

/-- Count what became of a text. -/
def tally (m : Manager κ) : Except FrameError Nat → Manager κ
  | .ok 0 =>
    { m with
      counters := { m.counters with droppedUnknownEvent := m.counters.droppedUnknownEvent + 1 } }
  | .ok _ => m
  | .error (.unknownStream _) =>
    { m with
      counters := { m.counters with droppedUnknownStream := m.counters.droppedUnknownStream + 1 } }
  | .error (.decode _) =>
    { m with counters := { m.counters with decodeErrors := m.counters.decodeErrors + 1 } }

/-- Handle a text that a link delivers: the state of `μ` holds the manager, where `read` and
`change` find it. -/
def handle {μ : Type → Type} [Monad μ] (read : μ (Manager κ))
    (change : (Manager κ → Manager κ) → μ Unit) (run : κ → Event → μ Unit)
    (text : String) :
    μ Unit := do
  change received
  let r ← (← read).process text run
  change (tally · r)

/-! ### Showing -/

/-- A number of milliseconds for messages: whole seconds where there are some, with a fraction
without zeros at its end. -/
def durationText (ms : Nat) : String :=
  if ms = 0 then "0ns"
  else if ms < 1000 then s!"{ms}ms"
  else
    let digits := (Nat.toDigits 10 (1000 + ms % 1000)).drop 1
    let shown := (digits.reverse.dropWhile (· == '0')).reverse
    s!"{ms / 1000}" ++ (if shown.isEmpty then "" else "." ++ String.ofList shown) ++ "s"

/-- The manager for messages. -/
def description (m : Manager κ) : String :=
  "ConnectionManager \x7b config: ConnectionConfig \x7b reconnect_delay: " ++
    durationText m.config.reconnectDelay ++ ", resubscribe_interval: " ++
    durationText m.config.resubscribeInterval ++ " \x7d, state: " ++ m.outbox.phase.name ++
    ", registry: " ++ m.registry.description ++ " \x7d"

end Manager

end BookFeed.Connection
