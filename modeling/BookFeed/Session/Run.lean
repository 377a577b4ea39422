import BookFeed.Session.Basic

set_option autoImplicit false

/-!
# What goes on by itself in a session

Callbacks run one after the other, and may let further texts be processed while they run. A task
whose callback breaks down ends there, and all that was done before stays done.

## Main definitions

* `BookFeed.Session.Act` — something that may break down.
* `BookFeed.Session.runCallback` — running a callback.
* `BookFeed.Session.State.settle` — everything that can go on at the present time.
* `BookFeed.Session.State.advance` — letting time pass.
-/

namespace BookFeed.Session

open Connection Feed

/-! ### Callbacks -/

/-- A callback has broken down. -/
structure Breakdown where

/-- Something that changes a session and may break down. -/
abbrev Act := ExceptT Breakdown (StateM State)

/-- Let a text be processed; `run` runs a callback. -/
def processWith (run : Callback → Event → Act Unit) (text : String) :
    Act (Except FrameError Nat) := do
  (← get).manager.process text run

/-- Change the manager and get an answer. -/
def withManager {α : Type} (f : Manager Callback → Manager Callback × α) : Act α :=
  modifyGet fun s => ((f s.manager).2, s.changeManager fun m => (f m).1)

/-- Do an action of a script. -/
def runAction (run : Callback → Event → Act Unit) : Action → Act Effect
  | .register stream identity script =>
    return .flag (← withManager (·.register stream identity (.script script)))
  | .deregister stream identity => return .flag (← withManager (·.deregister stream identity))
  | .frame text => return .frame (← processWith run text)
  | .send method params => return .number (← withManager (·.submit ⟨method, params, none⟩))
  | .breakDown => throw {}

/-- Run a callback for an event. At most `depth` callbacks run inside of each other. -/
def runCallback : Nat → Callback → Event → Act Unit
  | 0, _, _ => throw {}
  | depth + 1, callback, e =>
    match callback with
    | .view number => modify (·.changeView number fun v => { v with view := v.view.onEvent e })
    | .script script => do
      modify (·.note (.ran script.tag e))
      for action in script.actions do
        let effect ← runAction (runCallback depth) action
        modify (·.note (.did script.tag effect))

/-- How many callbacks may run inside of each other. -/
def callbackDepth : Nat := 256

/-- Let a text be processed. -/
def process (text : String) : Act (Except FrameError Nat) :=
  processWith (runCallback callbackDepth) text

/-- Handle a text that a link has delivered. -/
def handle (text : String) : Act Unit :=
  Manager.handle (return (← get).manager) (fun f => modify (·.changeManager f))
    (runCallback callbackDepth) text

namespace State

/-! ### Tasks -/

/-- Wake a task. -/
def wake (s : State) (task : Nat) (w : Wake) : State := s.changeClient (·.wake task w)

/-- What a task is doing. -/
def stage (s : State) (task : Nat) : Stage :=
  ((s.client.tasks[task]?).map (·.stage)).getD .finished

/-- The attempt that a task makes next, and the session without it. -/
def takeAttempt (s : State) (task : Nat) : Attempt × State :=
  match s.plans[task]? with
  | some (a :: rest) => (a, { s with plans := s.plans.set task rest })
  | _ => (.ok, s)

/-- A task gets a new link; `shape` says what is special about it. -/
def connect (s : State) (task : Nat) (shape : Link → Link) (room : Option Nat) : State :=
  let number := s.links.length + 1
  let s := { s with links := s.links ++ [shape { number := number }] }
  s.wake task (.connected { link := number, room := room })

/-- The link of a task has ended, or there was none; the next round comes after the delay. -/
def pause (s : State) (task : Nat) (w : Wake) : State :=
  (s.wake task w).after s.manager.config.reconnectDelay (.round task)

/-- A task that waits for a link makes an attempt. -/
def attempt (s : State) (task : Nat) : State :=
  if s.stage task = .connecting then
    let (a, s) := s.takeAttempt task
    let s := { s with attempts := s.attempts ++ [a] }
    match a with
    | .ok => s.connect task id none
    | .fail => s.pause task .failed
    | .hang => s
    | .slow ms => s.after ms (.attempt task)
    | .deaf => s.connect task (fun l => { l with serverReads := false }) (some 0)
    | .gone => s.connect task (fun l => { l with canSend := false }) none
  else s

/-- The client reads a link no longer. -/
def leave (s : State) (link : Nat) : State :=
  s.changeLink link fun l => { l with inbox := [], clientReads := false }

/-- A task reads one event of its link. -/
def read (s : State) (task : Nat) (l : Link) : State :=
  match l.inbox with
  | .frame text :: rest =>
    let s := s.changeLink l.number fun l => { l with inbox := rest }
    match (handle text).run.run s with
    | (.ok _, s) => s
    | (.error _, s) => (s.leave l.number).wake task .broken
  | _ => (s.leave l.number).pause task .ended

/-- Whether there is something to read on a link: an event, or that no more will come. -/
def hasNews (l : Link) : Bool := !l.inbox.isEmpty || !l.canSend

/-- The link that a task reads, if there is something to read. -/
def news? (s : State) (t : Task) : Option Link :=
  match t.stage with
  | .reading number => s.links.find? fun l => l.number == number && hasNews l
  | _ => none

/-- The session after a task has seen the stop flag. -/
def halt (s : State) (task : Nat) : State :=
  match s.stage task with
  | .reading link => (s.leave link).wake task .stopSeen
  | _ => s.wake task .stopSeen

/-- What a task can do now. -/
def taskStep (s : State) (task : Nat) : Option State := do
  let t ← s.client.tasks[task]?
  if s.client.seesStop t then return s.halt task
  return s.read task (← s.news? t)

/-! ### Views -/

/-- End a subscription. -/
def release (s : State) (h : Holding) : State :=
  let belongs : Alarm → Bool
    | .repetition n _ => n == h.number
    | .again n _ => n == h.number
    | _ => false
  { s.changeManager (·.release h.guard) with timers := s.timers.filter (!belongs ·.alarm) }

/-- A view goes, with its subscriptions. -/
def removeView (s : State) (v : Tracked) : State :=
  v.holdings.foldl release { s with views := s.views.filter (·.number != v.number) }

/-- A view goes now, or as soon as no fetch for it is under way. -/
def letViewGo (s : State) (v : Tracked) : State :=
  if v.fetching = 0 then s.removeView v
  else s.changeView v.number fun v => { v with leaving := true }

/-- A view gets what its source answers now. -/
def takeAnswer (s : State) (v : Tracked) (name : String) : State × Reseeded :=
  let (view, result) := v.view.reseed v.source.fetchDepth v.source.fetchPrice
  (s.changeView v.number fun v => { v with view := view },
    ⟨name, result, v.source.depthRequests⟩)

/-- A view gets the answer that it has waited for. -/
def endFetch (s : State) (number : Nat) (name : String) : State :=
  match s.view? number with
  | none => s
  | some v =>
    let (s, r) := s.takeAnswer v name
    let s := { s with reseeded := s.reseeded ++ [r] }
    let s := s.changeView number fun v => { v with fetching := v.fetching - 1 }
    match s.view? number with
    | some v => if v.leaving && v.fetching == 0 then s.removeView v else s
    | none => s

/-- A view asks its source. -/
def ask (s : State) (number : Nat) (name : String) : State :=
  let s := s.changeView number fun v => { v with source := v.source.requested }
  match s.view? number with
  | some v => s.after v.source.latency (.answer number name)
  | none => s

/-! ### Time -/

/-- Repeat a subscription after the interval. An interval of zero means that nothing is
repeated. -/
def repeatLater (s : State) (holding : Nat) (stream : String) : State :=
  if s.manager.config.resubscribeInterval = 0 then s
  else s.after s.manager.config.resubscribeInterval (.again holding stream)

/-- What a timer sets off. -/
def fire (s : State) : Alarm → State
  | .begin task => (s.wake task .begin).attempt task
  | .attempt task => if s.stage task = .connecting then s.connect task id none else s
  | .round task => (s.wake task .due).attempt task
  | .repetition holding stream => s.repeatLater holding stream
  | .again holding stream =>
    (s.changeManager (·.repeatSubscription stream)).repeatLater holding stream
  | .ask number name => s.ask number name
  | .answer number name => s.endFetch number name

/-- Fire the first timer that is due. -/
def timerStep (s : State) : Option State :=
  match s.timers.findIdx? (·.due ≤ s.now) with
  | none => none
  | some i => do
    let t ← s.timers[i]?
    return fire { s with timers := s.timers.eraseIdx i } t.alarm

/-- One thing that can go on now. -/
def goOn (s : State) : Option State :=
  s.timerStep <|> (List.range s.client.tasks.length).findSome? s.taskStep

/-- Go on as long as something can, at most `steps` times. -/
def goOnFor : Nat → State → State
  | 0, s => s
  | steps + 1, s =>
    match s.goOn with
    | some s => goOnFor steps s
    | none => s

/-- An upper bound of what can go on at one time: each timer, each event on a link and each
planned attempt sets off a few things at most. -/
def activity (s : State) : Nat :=
  let unread := s.links.foldl (fun n l => n + l.inbox.length + 1) 0
  let planned := s.plans.foldl (fun n p => n + p.length + 1) 0
  8 * (s.timers.length + unread + planned + s.client.tasks.length + 1)

/-- Go on until everything waits. -/
def settle (s : State) : State := goOnFor s.activity s

/-- Let time pass up to `target`, from one time at which something happens to the next. -/
def passUntil (target : Nat) : Nat → State → State
  | 0, s => s
  | steps + 1, s =>
    if s.now < target then
      let next := (s.timers.map (·.due)).foldl min target
      passUntil target steps (settle { s with now := max next (s.now + 1) })
    else s

/-- Let milliseconds pass. -/
def advance (s : State) (ms : Nat) : State := passUntil (s.now + ms) ms s

end State

end BookFeed.Session
