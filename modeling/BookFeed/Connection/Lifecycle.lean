import BookFeed.Connection.Manager

set_option autoImplicit false

/-!
# Starting, reconnecting and shutting down

A task keeps a manager connected: it makes a link, reads it until it ends, waits and starts
over. It is started by a caller and stopped through a flag that it looks at when it starts over,
and that wakes it wherever it waits. Several callers may start and shut down at the same time,
so everything here is cut into the steps between which others can act.

## Main definitions

* `BookFeed.Connection.Task` — what a task is doing.
* `BookFeed.Connection.Client` — a manager, its stop flag and its tasks.
* `BookFeed.Connection.Client.start`, `requestStop`, `finishStop` — the steps of callers.
* `BookFeed.Connection.Wake`, `BookFeed.Connection.Client.wake` — the steps of a task.
-/

namespace BookFeed.Connection

/-- What a task is doing. -/
inductive Stage where
  /-- It has not run yet. -/
  | spawned
  /-- It waits for a link. -/
  | connecting
  /-- It reads a link. -/
  | reading (link : Nat)
  /-- It waits for the next attempt. -/
  | sleeping
  /-- It has ended. -/
  | finished
deriving DecidableEq, Repr

/-- A task that keeps a manager connected. -/
structure Task where
  /-- What it is doing. -/
  stage : Stage := .spawned
  /-- The version of the stop flag that it has seen. -/
  seen : Nat := 0
deriving DecidableEq, Repr

/-- Whether a task has ended. -/
def Task.isFinished (t : Task) : Bool := t.stage == .finished

/-- A flag that tasks wait for. Every change of it, even to the same value, is a new version. -/
structure StopFlag where
  /-- Whether tasks should end. -/
  raised : Bool := false
  /-- How often it has been set. -/
  version : Nat := 0
deriving DecidableEq, Repr

/-- Set a flag. -/
def StopFlag.set (f : StopFlag) (raised : Bool) : StopFlag := ⟨raised, f.version + 1⟩

/-- A manager, its stop flag and its tasks. -/
structure Client (κ : Type) where
  /-- The manager. -/
  manager : Manager κ := {}
  /-- The flag that stops tasks. -/
  stop : StopFlag := {}
  /-- All tasks, the oldest first. -/
  tasks : List Task := []
  /-- The number of the task that a new start would have to wait for. -/
  slot : Option Nat := none

/-- What makes a task go on. -/
inductive Wake where
  /-- It runs for the first time. -/
  | begin
  /-- The link that it waits for is there. -/
  | connected (sink : Sink)
  /-- There is no link. -/
  | failed
  /-- The link that it reads has ended. -/
  | ended
  /-- It has waited long enough. -/
  | due
  /-- The stop flag has been set. -/
  | stopSeen
  /-- A callback has brought it down. -/
  | broken
deriving DecidableEq, Repr

namespace Client

variable {κ : Type}

/-! ### Callers -/

/-- Whether a task has ended, or never was. -/
def isFinished (c : Client κ) (task : Nat) : Bool :=
  ((c.tasks[task]?).map Task.isFinished).getD true

/-- A new task takes the slot. -/
def launch (c : Client κ) : Client κ :=
  { c with stop := c.stop.set false, tasks := c.tasks ++ [{}], slot := some c.tasks.length }

/-- Whether the slot holds a task that has not ended. -/
def isRunning (c : Client κ) : Bool :=
  match c.slot with
  | some t => !c.isFinished t
  | none => false

/-- Start a task, unless one is running. -/
def start (c : Client κ) : Client κ := if c.isRunning then c else c.launch

/-- The first step of shutting down: the flag is raised and the slot is emptied. The answer is
the task that the caller then waits for. -/
def requestStop (c : Client κ) : Client κ × Option Nat :=
  ({ c with stop := c.stop.set true, slot := none }, c.slot)

/-- Whether a caller that waits for a task can go on. -/
def canFinishStop (c : Client κ) (task : Option Nat) : Bool :=
  match task with
  | some t => c.isFinished t
  | none => true

/-- The last step of shutting down, once the task has ended. -/
def finishStop (c : Client κ) : Client κ := { c with manager := c.manager.closed }

/-! ### Tasks -/

/-- A client with one task changed. -/
def setTask (c : Client κ) (task : Nat) (t : Task) : Client κ :=
  { c with tasks := c.tasks.set task t }

/-- The start of a round: the flag is looked at, and if it is not raised a link is asked for. -/
def beginRound (c : Client κ) (task : Nat) (t : Task) : Client κ :=
  if c.stop.raised then
    { c.setTask task { t with stage := .finished } with manager := c.manager.closed }
  else
    { c.setTask task ⟨.connecting, c.stop.version⟩ with manager := c.manager.connecting }

/-- The task ends because of the flag, if it has not seen the flag's last change yet. -/
def halt (c : Client κ) (task : Nat) (t : Task) : Client κ :=
  if t.seen < c.stop.version then
    { c.setTask task { t with stage := .finished } with manager := c.manager.closed }
  else c

/-- One step of a task. A wake that does not belong to what the task is doing changes
nothing. -/
def wake (c : Client κ) (task : Nat) (w : Wake) : Client κ :=
  match c.tasks[task]? with
  | none => c
  | some t =>
    match w, t.stage with
    | .begin, .spawned => c.beginRound task { t with seen := c.stop.version }
    | .connected s, .connecting =>
      { c.setTask task { t with stage := .reading s.link } with manager := c.manager.ready s }
    | .failed, .connecting =>
      { c.setTask task { t with stage := .sleeping } with manager := c.manager.dropped }
    | .ended, .reading _ =>
      { c.setTask task { t with stage := .sleeping } with manager := c.manager.dropped }
    | .due, .sleeping => c.beginRound task t
    | .stopSeen, .connecting => c.halt task t
    | .stopSeen, .reading _ => c.halt task t
    | .stopSeen, .sleeping => c.halt task t
    | .broken, .reading _ => c.setTask task { t with stage := .finished }
    | _, _ => c

/-- Whether the stop flag would wake a task. -/
def seesStop (c : Client κ) (t : Task) : Bool :=
  t.seen < c.stop.version &&
    match t.stage with
    | .spawned => false
    | .finished => false
    | _ => true

end Client

end BookFeed.Connection
