import BookFeed.Feed.Request

set_option autoImplicit false

/-!
# The outbox

Requests are numbered as they are submitted. While a link is open they are handed to it at once;
otherwise they wait in the order of their numbers. The outbox remembers which streams are
wanted. When a new link is ready it gets the requests that wait and then a subscription for each
wanted stream that none of them names. A link may stop taking texts at any moment; what it did
not take stays in the queue.

## Main definitions

* `BookFeed.Connection.Phase` — connecting, open or closed.
* `BookFeed.Connection.Sink` — the writing end of a link.
* `BookFeed.Connection.Outbox` — the numbered queue and the wanted streams.
* `BookFeed.Connection.Outbox.submit`, `BookFeed.Connection.Outbox.ready`,
  `BookFeed.Connection.Outbox.closed`, `BookFeed.Connection.Outbox.connecting` — its
  operations.
-/

namespace BookFeed.Connection

open Feed

/-- The state of the connection. -/
inductive Phase where
  /-- A link is being made. -/
  | connecting
  /-- There is a link. -/
  | opened
  /-- There is no link. -/
  | closed
deriving DecidableEq, Repr

/-- The word for a phase. -/
def Phase.name : Phase → String
  | .connecting => "Connecting"
  | .opened => "Open"
  | .closed => "Closed"

/-! ### The writing end of a link -/

/-- The writing end of a link. -/
structure Sink where
  /-- The number of the link. -/
  link : Nat
  /-- How many texts the link will still take; nothing if there is no limit. -/
  room : Option Nat := none
deriving DecidableEq, Repr

namespace Sink

/-- Whether the link takes texts. -/
def accepts (s : Sink) : Bool := s.room != some 0

/-- A link that takes nothing any more. -/
def stopped (s : Sink) : Sink := { s with room := some 0 }

/-- What is left of a batch of requests after a link has taken as many as it will. -/
structure Handover where
  /-- The requests that the link took. -/
  taken : List Request
  /-- Those that it did not. -/
  left : List Request
  /-- The link after that. -/
  sink : Sink
deriving DecidableEq, Repr

/-- Hand requests to a link, in order. -/
def hand (s : Sink) (rs : List Request) : Handover :=
  match s.room with
  | none => ⟨rs, [], s⟩
  | some n => ⟨rs.take n, rs.drop n, { s with room := some (n - rs.length) }⟩

end Sink

/-! ### The queue -/

/-- The numbered queue and the wanted streams. -/
structure Outbox where
  /-- The state of the connection. -/
  phase : Phase := .connecting
  /-- The number of the next request. -/
  nextId : Nat := 1
  /-- The requests that wait, the oldest first. -/
  pending : List Request := []
  /-- The wanted streams, ascending. -/
  active : List String := []
  /-- The link, while there is one. -/
  sink : Option Sink := none
deriving DecidableEq, Repr

namespace Outbox

/-- Put a text into an ascending list, once. -/
def insertSorted (s : String) : List String → List String
  | [] => [s]
  | h :: hs =>
    if s = h then h :: hs
    else if s < h then s :: h :: hs
    else h :: insertSorted s hs

/-- The wanted streams after a request. -/
def track (active : List String) (r : Request) : List String :=
  r.params.foldl
    (fun active stream =>
      match r.method with
      | .subscribe => insertSorted stream active
      | .unsubscribe => active.filter (· != stream))
    active

/-- What became of a request. -/
structure Submission where
  /-- The request with its number. -/
  request : Request
  /-- The link that took it, if one did; otherwise it waits. -/
  takenBy : Option Nat
deriving DecidableEq, Repr

/-- The link that a request can be handed to now. -/
def openSink (o : Outbox) : Option Sink :=
  if o.phase = .opened then o.sink.filter Sink.accepts else none

/-- Submit a request. A number that it already has is replaced. -/
def submit (o : Outbox) (r : Request) : Outbox × Submission :=
  let request := r.withId o.nextId
  let o := { o with nextId := o.nextId + 1, active := track o.active request }
  match o.openSink with
  | some s => ({ o with sink := some (s.hand [request]).sink }, ⟨request, some s.link⟩)
  | none => ({ o with pending := o.pending ++ [request] }, ⟨request, none⟩)

/-- The streams that subscriptions among the requests name. -/
def covered (rs : List Request) : List String :=
  (rs.filter (·.method == .subscribe)).flatMap (·.params)

/-- The subscriptions for the wanted streams that the queue does not name, with the next
numbers. -/
def replay (o : Outbox) : List Request :=
  (o.active.filter (!(covered o.pending).contains ·)).mapIdx fun i stream =>
    (Request.subscribe stream).withId (o.nextId + i)

/-- A new link is ready: it gets the queue and the replay, and the outbox is open if it takes
all of it. A link that refuses one of them is not used; the request of the queue that it refused
stays the first one, and the number of a replayed one is lost. The answer is what the link
took. -/
def ready (o : Outbox) (s : Sink) : Outbox × List Request :=
  let queue := s.hand o.pending
  if queue.left.isEmpty then
    let again := queue.sink.hand o.replay
    let taken := queue.taken ++ again.taken
    if again.left.isEmpty then
      ({ o with
          phase := .opened
          nextId := o.nextId + again.taken.length
          pending := []
          sink := some again.sink }, taken)
    else ({ o with nextId := o.nextId + again.taken.length + 1, pending := [] }, taken)
  else ({ o with pending := queue.left }, queue.taken)

/-- The link has ended. -/
def closed (o : Outbox) : Outbox := { o with phase := .closed, sink := none }

/-- A link is being made. -/
def connecting (o : Outbox) : Outbox := { o with phase := .connecting }

/-- The link takes nothing any more, which nobody notices before the next request. -/
def stop (o : Outbox) (link : Nat) : Outbox :=
  { o with sink := o.sink.map fun s => if s.link = link then s.stopped else s }

/-- Whether there is a link. -/
def isOpen (o : Outbox) : Bool := o.phase == .opened

end Outbox

end BookFeed.Connection
