import BookFeed.Session.Run

set_option autoImplicit false

/-!
# The steps of a session

Each step does one thing to the session, lets everything go on until it waits, and reports what
has happened.

## Main definitions

* `BookFeed.Session.Step` — the steps.
* `BookFeed.Session.Outcome` — the result of a step.
* `BookFeed.Session.State.play` — doing a step.
* `BookFeed.Session.Report` — what a step has brought about.
-/

namespace BookFeed.Session

open Connection Feed

/-! ### Steps and results -/

/-- What a view's source should answer from now on, and that it should be asked. -/
structure Reseeding where
  /-- The depth from now on, if it changes. -/
  depth : Option Book.Depth := none
  /-- The price from now on, if it changes. -/
  price : Option Decimal := none
  /-- Whether asking for the depth fails. -/
  failDepth : Bool := false
  /-- Whether asking for the price fails. -/
  failPrice : Bool := false
  /-- How long an answer takes. -/
  latency : Nat := 0

/-- The steps of a session. -/
inductive Step where
  /-- Submit a request. -/
  | send (r : Request)
  /-- Add a listener. -/
  | register (stream identity : String) (script : Script)
  /-- Remove a listener. -/
  | deregister (stream identity : String)
  /-- Count the listeners of a stream. -/
  | count (stream : String)
  /-- Describe the manager. -/
  | describe
  /-- Describe the registry. -/
  | describeRegistry
  /-- Open a subscription and keep it under a name. -/
  | subscribe (name stream identity : String) (script : Script)
  /-- End the subscription of a name. -/
  | unsubscribe (name : String)
  /-- Let a text be processed. -/
  | frame (text : String)
  /-- Start a task with a plan for its attempts to connect. -/
  | start (plan : List Attempt)
  /-- Shut down. -/
  | shutdown
  /-- Let time pass. -/
  | advance (ms : Nat)
  /-- The server sends a text. -/
  | push (text : String)
  /-- The server closes the link. -/
  | close (code : Option Nat) (reason : String)
  /-- The server stops sending. -/
  | hangUp
  /-- The server stops reading. -/
  | stopReading
  /-- Open a view and keep it under a name. -/
  | openView (name market : String) (limit : Nat) (depth : Book.Depth)
  /-- Fetch full depth for a view. -/
  | reseed (name : String) (r : Reseeding)
  /-- Show a view. -/
  | show (name : String)
  /-- Let a view go. -/
  | closeView (name : String)

/-- The result of a step. -/
inductive Outcome where
  /-- Nothing to say. -/
  | nothing
  /-- Yes or no. -/
  | flag (b : Bool)
  /-- A number. -/
  | number (n : Nat)
  /-- A text. -/
  | text (s : String)
  /-- A subscription was opened. -/
  | guard (g : Guard)
  /-- A subscription has ended. -/
  | released
  /-- What became of a text. -/
  | frame (r : Except FrameError Nat)
  /-- A callback has broken down. -/
  | broken
  /-- A view has got its answer. -/
  | reseeded (r : Reseeded)
  /-- A view waits for its answer. -/
  | started
  /-- A view. -/
  | view (v : Market.View)
  /-- A view has gone. -/
  | closed
  /-- A view goes later. -/
  | busy

namespace State

/-! ### Subscriptions -/

/-- Open a subscription. -/
def hold (s : State) (stream identity : String) (callback : Callback) : State × Holding :=
  let g := (s.manager.subscribe stream identity callback).2
  let s := s.changeManager fun m => (m.subscribe stream identity callback).1
  let h : Holding := ⟨s.holdingCount, g⟩
  let s := { s with holdingCount := s.holdingCount + 1 }
  (if s.repeating then s.after 0 (.repetition h.number stream) else s, h)

/-- Put a value under a name, and get the value that was there. -/
def put {α : Type} (name : String) (a : α) (names : List (String × α)) :
    List (String × α) × Option α :=
  ((name, a) :: names.filter (·.1 != name), names.lookup name)

/-- Open a subscription under a name; one that has the name already ends after that. -/
def subscribe (s : State) (name stream identity : String) (script : Script) : State × Guard :=
  let (s, h) := s.hold stream identity (.script script)
  let (names, old) := put name h s.subscriptions
  let s := { s with subscriptions := names }
  (match old with
    | some old => s.release old
    | none => s, h.guard)

/-! ### Views -/

/-- Open a view under a name; one that has the name already goes after that. -/
def openView (s : State) (name market : String) (limit : Nat) (depth : Book.Depth) : State :=
  let number := s.viewCount + 1
  let old := s.named? name
  let (s, holdings) := (Market.View.streams market).foldl
    (fun (s, hs) (stream, kind) =>
      let identity := Market.View.identity kind market number
      let (s, h) := s.hold stream.text identity (.view number)
      (s, hs ++ [h]))
    (s, [])
  let v : Tracked :=
    { number := number, view := .new market limit, holdings := holdings,
      source := { depth := depth } }
  let s := { s with
    viewCount := number
    views := s.views ++ [v]
    viewNames := (put name number s.viewNames).1 }
  match old with
  | some old => s.letViewGo old
  | none => s

/-- Fetch full depth for a view. An answer that takes no time is there at once. -/
def reseed (s : State) (v : Tracked) (name : String) (r : Reseeding) : State × Outcome :=
  let source : Seed.FixedSource :=
    { v.source with
      depth := r.depth.getD v.source.depth
      price := r.price <|> v.source.price
      failDepth := r.failDepth
      failPrice := r.failPrice
      latency := r.latency }
  if r.latency = 0 then
    let v := { v with source := source.requested }
    let (s, r) := (s.changeView v.number fun _ => v).takeAnswer v name
    (s, .reseeded r)
  else
    let s := s.changeView v.number fun v => { v with source := source, fetching := v.fetching + 1 }
    (s.after 0 (.ask v.number name), .started)

/-- Let the view of a name go. -/
def closeView (s : State) (name : String) (v : Tracked) : State × Outcome :=
  let s := { s with viewNames := s.viewNames.filter (·.1 != name) }
  (s.letViewGo v, if v.fetching = 0 then .closed else .busy)

/-! ### Links -/

/-- The server sends an event on the newest link. There is no result without a link or when the
server cannot send any more; otherwise the result says whether the client still reads. -/
def deliver (s : State) (e : LinkEvent) : State × Outcome :=
  match s.newestLink with
  | none => (s, .nothing)
  | some l =>
    if !l.canSend then (s, .nothing)
    else if !l.clientReads then (s, .flag false)
    else (s.changeLink l.number fun l => { l with inbox := l.inbox ++ [e] }, .flag true)

/-- The server stops sending on the newest link. -/
def hangUp (s : State) : State × Outcome :=
  match s.newestLink with
  | none => (s, .nothing)
  | some l => (s.changeLink l.number fun l => { l with canSend := false }, .flag l.canSend)

/-- The server stops reading the newest link. -/
def stopReading (s : State) : State × Outcome :=
  match s.newestLink with
  | none => (s, .nothing)
  | some l =>
    let s := s.changeLink l.number fun l => { l with serverReads := false }
    (s.changeManager (·.stop l.number), .flag l.serverReads)

/-- Shut down: tasks go on until the one that was running has ended. -/
def shutdown (s : State) : State :=
  let (_, task) := s.client.requestStop
  let s := s.changeClient (·.requestStop.1)
  let s := if s.client.canFinishStop task then s else s.settle
  s.changeClient Client.finishStop

/-! ### All steps -/

/-- Do what a step says. -/
def perform (s : State) : Step → State × Outcome
  | .send r =>
    let n := (s.manager.submit r).2
    (s.changeManager fun m => (m.submit r).1, .number n)
  | .register stream identity script =>
    (s.changeManager fun m => (m.register stream identity (.script script)).1,
      .flag (s.manager.registry.isRegistered stream identity))
  | .deregister stream identity =>
    (s.changeManager fun m => (m.deregister stream identity).1,
      .flag (s.manager.registry.isRegistered stream identity))
  | .count stream => (s, .number (s.manager.registry.listenerCount stream))
  | .describe => (s, .text s.manager.description)
  | .describeRegistry => (s, .text s.manager.registry.description)
  | .subscribe name stream identity script =>
    let (s, g) := s.subscribe name stream identity script
    (s, .guard g)
  | .unsubscribe name =>
    match s.subscriptions.lookup name with
    | some h =>
      ({ s with subscriptions := s.subscriptions.filter (·.1 != name) }.release h, .released)
    | none => (s, .nothing)
  | .frame text =>
    match (process text).run.run s with
    | (.ok r, s) => (s, .frame r)
    | (.error _, s) => (s, .broken)
  | .start plan =>
    if s.client.isRunning then (s, .nothing)
    else
      let s := s.changeClient Client.start
      let s := { s with plans := s.plans ++ [plan] }
      (s.after 0 (.begin (s.client.tasks.length - 1)), .nothing)
  | .shutdown => (s.shutdown, .nothing)
  | .advance ms => (s.advance ms, .nothing)
  | .push text => s.deliver (.frame text)
  | .close code reason => s.deliver (.closed code reason)
  | .hangUp => s.hangUp
  | .stopReading => s.stopReading
  | .openView name market limit depth => (s.openView name market limit depth, .text market)
  | .reseed name r =>
    match s.named? name with
    | some v => s.reseed v name r
    | none => (s, .nothing)
  | .show name =>
    match s.named? name with
    | some v => (s, .view v.view)
    | none => (s, .nothing)
  | .closeView name =>
    match s.named? name with
    | some v => s.closeView name v
    | none => (s, .nothing)

end State

/-! ### Reports -/

/-- What a step has brought about, besides its result. -/
structure Report where
  /-- The result. -/
  outcome : Outcome
  /-- What links took in this step, by link. -/
  sent : List Written
  /-- The views that published something, by name, with what they published last. -/
  updates : List (String × Market.Snapshot)
  /-- How much the counters have grown. -/
  counted : List (String × Nat)

namespace State

/-- The session at the start of a step: nothing has happened in it yet. -/
def fresh (s : State) : State :=
  { s with
    notes := []
    attempts := []
    lost := []
    reseeded := []
    views := s.views.map fun v => { v with reported := v.view.publications } }

/-- The views that have a name, by name. -/
def namedViews (s : State) : List (String × Tracked) :=
  (s.viewNames.filterMap fun (name, number) => (s.view? number).map (name, ·)).mergeSort
    fun a b => a.1 ≤ b.1

/-- What has happened since `old`. -/
def report (s old : State) (outcome : Outcome) : Report where
  outcome := outcome
  sent := (s.manager.written.drop old.manager.written.length).mergeSort fun a b => a.link ≤ b.link
  updates := (s.namedViews.filter fun (_, v) => v.reported < v.view.publications).map
    fun (name, v) => (name, v.view.published)
  counted := s.manager.counters.since old.manager.counters

/-- Do a step, and let everything go on unless it is said to wait for the next step. -/
def play (s : State) (step : Step) (waits : Bool) : State × Report :=
  let (s', outcome) := s.fresh.perform step
  let s' := if waits then s' else s'.settle
  (s', s'.report s outcome)

end State

end BookFeed.Session
