import BookFeed.Connection.Lifecycle
import BookFeed.Connection.Link
import BookFeed.Connection.Subscription
import BookFeed.Market.View
import BookFeed.Seed.FixedSource
import BookFeed.Session.Script

set_option autoImplicit false

/-!
# Sessions

A session is a client with subscriptions and views, over links in memory and with a clock that
only moves when it is told to. What in a live client goes on at the same time is here set off by
timers, among them some that are due at once, and by links with something to read.

## Main definitions

* `BookFeed.Session.Link` — a link in memory, seen from the server.
* `BookFeed.Session.Attempt` — what becomes of an attempt to connect.
* `BookFeed.Session.Timer` — what goes on later.
* `BookFeed.Session.Tracked` — a view and what belongs to it.
* `BookFeed.Session.State` — all of a session.
-/

namespace BookFeed.Session

open Connection Feed

/-! ### Links -/

/-- A link in memory. -/
structure Link where
  /-- Its number, from one. -/
  number : Nat
  /-- What the server has sent and nobody has read. -/
  inbox : List LinkEvent := []
  /-- Whether the server can send. -/
  canSend : Bool := true
  /-- Whether the server reads. -/
  serverReads : Bool := true
  /-- Whether the client reads. -/
  clientReads : Bool := true

/-- What becomes of an attempt to connect. -/
inductive Attempt where
  /-- There is a link. -/
  | ok
  /-- There is none. -/
  | fail
  /-- It never ends. -/
  | hang
  /-- There is a link after some milliseconds. -/
  | slow (ms : Nat)
  /-- There is a link that takes no text. -/
  | deaf
  /-- There is a link that has ended already. -/
  | gone
deriving DecidableEq, Repr

/-! ### Time -/

/-- What a timer sets off. -/
inductive Alarm where
  /-- A task runs for the first time. -/
  | begin (task : Nat)
  /-- A slow attempt of a task comes to its end. -/
  | attempt (task : Nat)
  /-- A task begins a new round. -/
  | round (task : Nat)
  /-- The repetition of a holding's subscription begins. -/
  | repetition (holding : Nat) (stream : String)
  /-- The subscription of a holding is repeated. -/
  | again (holding : Nat) (stream : String)
  /-- A view asks its source. -/
  | ask (view : Nat) (name : String)
  /-- A view gets the answer. -/
  | answer (view : Nat) (name : String)
deriving DecidableEq, Repr

/-- Something that happens at a given time. -/
structure Timer where
  /-- The time. -/
  due : Nat
  /-- What happens. -/
  alarm : Alarm
deriving DecidableEq, Repr

/-! ### Holders -/

/-- A guard that is held, with a number of its own. -/
structure Holding where
  /-- The number. -/
  number : Nat
  /-- The guard. -/
  guard : Guard
deriving DecidableEq, Repr

/-- A view and what belongs to it. -/
structure Tracked where
  /-- The number of the view. -/
  number : Nat
  /-- The view. -/
  view : Market.View
  /-- Its subscriptions. -/
  holdings : List Holding
  /-- Where it gets full depth from. -/
  source : Seed.FixedSource
  /-- How many fetches for it have not ended. -/
  fetching : Nat := 0
  /-- Whether it goes when they have. -/
  leaving : Bool := false
  /-- How much it had published before the current step. -/
  reported : Nat := 0

/-- What became of a fetch for a view. -/
structure Reseeded where
  /-- The name of the view. -/
  name : String
  /-- Whether there was depth. -/
  result : Except Seed.FetchError Unit
  /-- How often depth was asked for, for this view. -/
  depthRequests : Nat

/-! ### All of it -/

/-- All of a session. -/
structure State where
  /-- The time in milliseconds. -/
  now : Nat := 0
  /-- Whether subscriptions are repeated. -/
  repeating : Bool := true
  /-- The client. -/
  client : Client Callback := {}
  /-- The links, the oldest first. -/
  links : List Link := []
  /-- What becomes of the next attempts of each task. -/
  plans : List (List Attempt) := []
  /-- The timers, in the order in which they were set. -/
  timers : List Timer := []
  /-- How many holdings there have been. -/
  holdingCount : Nat := 0
  /-- Subscriptions by name. -/
  subscriptions : List (String × Holding) := []
  /-- How many views there have been. -/
  viewCount : Nat := 0
  /-- The views that have not gone. -/
  views : List Tracked := []
  /-- Views by name. -/
  viewNames : List (String × Nat) := []
  /-- What was noted in this step. -/
  notes : List Note := []
  /-- The attempts to connect in this step. -/
  attempts : List Attempt := []
  /-- The links that the client let go in this step while the server still read them. -/
  lost : List Nat := []
  /-- The fetches that ended in this step. -/
  reseeded : List Reseeded := []

namespace State

/-- The manager of the client. -/
def manager (s : State) : Manager Callback := s.client.manager

/-- The link whose writing end was held in `old` and is not in `new`, if the server reads it. -/
def letGo (old new : Option Sink) : List Nat :=
  match old with
  | none => []
  | some k => if new.map (·.link) = some k.link || k.room.isSome then [] else [k.link]

/-- Change the client. A link that it lets go has nothing more for the server to read. -/
def changeClient (s : State) (f : Client Callback → Client Callback) : State :=
  let c := f s.client
  let gone := letGo s.manager.outbox.sink c.manager.outbox.sink
  { s with
    client := c
    lost := s.lost ++ gone
    links := s.links.map fun l =>
      if gone.contains l.number then { l with serverReads := false } else l }

/-- Change the manager. -/
def changeManager (s : State) (f : Manager Callback → Manager Callback) : State :=
  s.changeClient fun c => { c with manager := f c.manager }

/-- Set a timer. -/
def after (s : State) (ms : Nat) (alarm : Alarm) : State :=
  { s with timers := s.timers ++ [⟨s.now + ms, alarm⟩] }

/-- Make a note. -/
def note (s : State) (n : Note) : State := { s with notes := s.notes ++ [n] }

/-- Change the link with a number. -/
def changeLink (s : State) (number : Nat) (f : Link → Link) : State :=
  { s with links := s.links.map fun l => if l.number = number then f l else l }

/-- The newest link. -/
def newestLink (s : State) : Option Link := s.links.getLast?

/-- Change the view with a number. -/
def changeView (s : State) (number : Nat) (f : Tracked → Tracked) : State :=
  { s with views := s.views.map fun v => if v.number = number then f v else v }

/-- The view with a number. -/
def view? (s : State) (number : Nat) : Option Tracked := s.views.find? (·.number == number)

/-- The view with a name. -/
def named? (s : State) (name : String) : Option Tracked := do
  s.view? (← s.viewNames.lookup name)

end State

end BookFeed.Session
