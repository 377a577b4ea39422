import BookFeed.Connection.Link
import BookFeed.Proofs.Connection.Handling
import BookFeed.Proofs.Connection.Wanted

set_option autoImplicit false

/-!
# The life of a client that is not shut down

A client is started and left running. Its connector makes one attempt after the other; an
attempt fails or brings a link, and a link delivers the messages of its socket until the first
one that ends it. In between callers use the manager, links stop taking texts, and callbacks are
run for the texts that are handled. A callback may use the manager as callers do, and returns.

The steps of the task are those of `Client.wake`. A client that is not shut down never has more
than one task, so the task that goes on is always the first one.

## Main definitions

* `BookFeed.Connection.textsBeforeEnd`, `BookFeed.Connection.ending` — what a list of socket
  messages says, and how it ends.
* `BookFeed.Connection.Trial` — what comes of an attempt to connect.
* `BookFeed.Connection.Call`, `BookFeed.Connection.Manager.callAll` — what users do with a
  manager.
* `BookFeed.Connection.Life`, `BookFeed.Connection.Life.run` — a client, its connector and its
  past.
* `BookFeed.Connection.Client.IsAt` — a client with at most one task, at some stage.
* `BookFeed.Connection.Wake.effect` — where a wake takes a task.

## Main results

* `BookFeed.Connection.linkEvents_eq` — a link delivers its texts and then one event that it
  has ended.
* `BookFeed.Connection.Client.IsAt.wake_spec` — what a wake does to such a client.
* `BookFeed.Connection.Life.exists_handle_eq` — all that handling a text can do.
* `BookFeed.Connection.Life.went_go` — all that the task can do.
-/

namespace BookFeed.Connection

open Feed

/-! ### What a link delivers -/

/-- The text of a message. -/
def SocketMessage.text? : SocketMessage → Option String
  | .text s => some s
  | _ => none

/-- The code and the reason with which a message ends its link, if it does. -/
def SocketMessage.ending? : SocketMessage → Option (Option Nat × String)
  | .close frame => some (frame.map (·.1), (frame.map (·.2)).getD "")
  | .fault message => some (none, message)
  | _ => none

/-- The text of an event. -/
def LinkEvent.text? : LinkEvent → Option String
  | .frame text => some text
  | .closed _ _ => none

@[simp] theorem LinkEvent.text?_frame (text : String) :
    (LinkEvent.frame text).text? = some text := rfl

@[simp] theorem LinkEvent.text?_closed (code : Option Nat) (reason : String) :
    (LinkEvent.closed code reason).text? = none := rfl

/-- The texts of a socket before the first message that ends the link. -/
def textsBeforeEnd (ms : List SocketMessage) : List String :=
  (ms.takeWhile (·.ending?.isNone)).filterMap SocketMessage.text?

/-- The code and the reason with which a link ends: those of the first message that ends it, or
that the stream has ended. -/
def ending (ms : List SocketMessage) : Option Nat × String :=
  (ms.findSome? SocketMessage.ending?).getD (none, "stream ended")

/-- A message ends its link, or it is passed on if it is a text, and reading goes on. -/
theorem linkEvents_cons (m : SocketMessage) (ms : List SocketMessage) :
    linkEvents (m :: ms) =
      match m.ending? with
      | some e => [.closed e.1 e.2]
      | none => m.text?.toList.map .frame ++ linkEvents ms := by
  cases m <;> rfl

/-- A link delivers the texts before its end, in order, and then one event that it has ended. -/
theorem linkEvents_eq (ms : List SocketMessage) :
    linkEvents ms = (textsBeforeEnd ms).map .frame ++ [.closed (ending ms).1 (ending ms).2] := by
  induction ms with
  | nil => rfl
  | cons m ms ih =>
    rw [linkEvents_cons]
    cases hending : m.ending? with
    | some e => simp [textsBeforeEnd, ending, hending]
    | none =>
      have htexts : textsBeforeEnd (m :: ms) = m.text?.toList ++ textsBeforeEnd ms := by
        cases htext : m.text? <;> simp [textsBeforeEnd, hending, htext]
      have hend : ending (m :: ms) = ending ms := by simp [ending, hending]
      dsimp only
      rw [ih, htexts, hend, List.map_append, List.append_assoc]

example : linkEvents [.text "a", .ping, .text "b", .close (some (1000, "bye")), .text "c"] =
    [.frame "a", .frame "b", .closed (some 1000) "bye"] := rfl

/-- What comes of an attempt to connect. -/
inductive Trial where
  /-- There is no link. -/
  | failed
  /-- There is a link, which takes `room` texts before it stops and delivers what its socket
  says. -/
  | link (room : Option Nat) (messages : List SocketMessage)

namespace Trial

/-- Whether there is a link. -/
def isLink : Trial → Bool
  | failed => false
  | link _ _ => true

/-- The texts that a link delivers. -/
def texts : Trial → List String
  | failed => []
  | link _ messages => textsBeforeEnd messages

end Trial

/-! ### What users do -/

/-- What callers and callbacks do with a manager. -/
inductive Call (κ : Type) where
  /-- Submit a request. -/
  | submit (r : Request)
  /-- Repeat the wish for a stream, if there is a link. -/
  | repeatWish (stream : String)
  /-- Add a listener. -/
  | register (stream identity : String) (callback : κ)
  /-- Remove a listener. -/
  | deregister (stream identity : String)

/-- A registry after a call: only adding and removing listeners changes it. -/
def Call.onRegistry {κ : Type} (r : Registry κ) : Call κ → Registry κ
  | .register stream identity callback => (r.register stream identity callback).1
  | .deregister stream identity => (r.deregister stream identity).1
  | _ => r

/-- Something that happened: a text was handled, or the manager was used. -/
inductive Deed (κ : Type) where
  /-- A text was handled. -/
  | text (s : String)
  /-- The manager was used. -/
  | call (c : Call κ)

/-- The text that was handled, if one was. -/
def Deed.text? {κ : Type} : Deed κ → Option String
  | .text s => some s
  | .call _ => none

@[simp] theorem Deed.text?_text {κ : Type} (s : String) :
    (Deed.text s : Deed κ).text? = some s := rfl

@[simp] theorem Deed.text?_call {κ : Type} (c : Call κ) : (Deed.call c).text? = none := rfl

namespace Manager

variable {κ : Type}

/-- A manager after a call. -/
def call (m : Manager κ) : Call κ → Manager κ
  | .submit r => (m.submit r).1
  | .repeatWish stream => m.repeatSubscription stream
  | .register stream identity callback => (m.register stream identity callback).1
  | .deregister stream identity => (m.deregister stream identity).1

/-- A manager after some calls. -/
def callAll (m : Manager κ) (calls : List (Call κ)) : Manager κ := calls.foldl call m

end Manager

/-! ### Clients with at most one task -/

/-- Where a wake takes a task, and what becomes of the manager, as long as nobody shuts down and
no callback breaks down. -/
def Wake.effect {κ : Type} (m : Manager κ) : Wake → Stage → Option (Stage × Manager κ)
  | .begin, .spawned => some (.connecting, m.connecting)
  | .connected s, .connecting => some (.reading s.link, m.ready s)
  | .failed, .connecting => some (.sleeping, m.dropped)
  | .ended, .reading _ => some (.sleeping, m.dropped)
  | .due, .sleeping => some (.connecting, m.connecting)
  | _, _ => none

namespace Client

variable {κ : Type}

/-- What the first task of a client is doing. -/
def stage? (c : Client κ) : Option Stage := (c.tasks[0]?).map (·.stage)

/-- A client that has not been shut down: it has not been started yet, or it has one task, which
has not ended. -/
inductive IsAt (c : Client κ) : Option Stage → Prop
  /-- It has not been started. -/
  | idle (htasks : c.tasks = []) (hslot : c.slot = none) : IsAt c none
  /-- It has one task. -/
  | task (stage : Stage) (seen : Nat) (hstage : stage ≠ .finished)
      (htasks : c.tasks = [⟨stage, seen⟩]) (hslot : c.slot = some 0)
      (hstop : c.stop.raised = false) : IsAt c (some stage)

variable {c : Client κ}

/-- The stage of a client is that of its first task. -/
theorem IsAt.stage?_eq {s : Option Stage} (h : c.IsAt s) : c.stage? = s := by
  cases h with
  | idle htasks hslot => simp [stage?, htasks]
  | task stage seen hstage htasks hslot hstop => simp [stage?, htasks]

/-- Using the manager does nothing to the tasks. -/
theorem IsAt.withManager {s : Option Stage} (h : c.IsAt s) (m : Manager κ) :
    IsAt { c with manager := m } s := by
  cases h with
  | idle htasks hslot => exact .idle htasks hslot
  | task stage seen hstage htasks hslot hstop => exact .task stage seen hstage htasks hslot hstop

/-- The first start launches a task. -/
theorem IsAt.start_of_idle (h : c.IsAt none) :
    c.start.IsAt (some .spawned) ∧ c.start.manager = c.manager := by
  cases h with
  | idle htasks hslot =>
    have hstart : c.start = c.launch := by simp [start, isRunning, hslot]
    rw [hstart]
    exact ⟨.task .spawned 0 nofun (by simp [launch, htasks]) (by simp [launch, htasks]) rfl,
      rfl⟩

/-- Another start does nothing. -/
theorem IsAt.start_of_task {stage : Stage} (h : c.IsAt (some stage)) : c.start = c := by
  cases h with
  | task _ seen hstage htasks hslot hstop =>
    simp [start, isRunning, hslot, isFinished, htasks, Task.isFinished, hstage]

/-- The one task of a client. -/
theorem IsAt.exists_task {stage : Stage} (h : c.IsAt (some stage)) :
    ∃ seen, c.tasks[0]? = some ⟨stage, seen⟩ ∧ c.stop.raised = false := by
  cases h with
  | task _ seen hstage htasks hslot hstop => exact ⟨seen, by simp [htasks], hstop⟩

/-- The task goes to another stage. -/
theorem IsAt.of_setTask {stage : Stage} (h : c.IsAt (some stage)) (stage' : Stage) (seen' : Nat)
    (m : Manager κ) (hstage' : stage' ≠ .finished) :
    IsAt { c.setTask 0 ⟨stage', seen'⟩ with manager := m } (some stage') := by
  cases h with
  | task _ seen hstage htasks hslot hstop =>
    exact .task stage' seen' hstage' (by simp [setTask, htasks]) hslot hstop

/-- A wake takes the task where it should, and does to the manager what it should. -/
theorem IsAt.wake_spec {stage stage' : Stage} {w : Wake} {m : Manager κ} (h : c.IsAt (some stage))
    (heffect : w.effect c.manager stage = some (stage', m)) :
    (c.wake 0 w).IsAt (some stage') ∧ (c.wake 0 w).manager = m := by
  obtain ⟨seen, htask, hstop⟩ := h.exists_task
  have hwake : stage' ≠ .finished ∧
      ∃ seen', c.wake 0 w = { c.setTask 0 ⟨stage', seen'⟩ with manager := m } := by
    unfold Wake.effect at heffect
    split at heffect <;>
      simp only [Option.some.injEq, Prod.mk.injEq, reduceCtorEq] at heffect <;>
      obtain ⟨rfl, rfl⟩ := heffect
    · exact ⟨nofun, c.stop.version, by simp [wake, htask, beginRound, hstop]⟩
    · exact ⟨nofun, seen, by simp [wake, htask]⟩
    · exact ⟨nofun, seen, by simp [wake, htask]⟩
    · exact ⟨nofun, seen, by simp [wake, htask]⟩
    · exact ⟨nofun, c.stop.version, by simp [wake, htask, beginRound, hstop]⟩
  obtain ⟨hfinished, seen', hwake⟩ := hwake
  rw [hwake]
  exact ⟨h.of_setTask stage' seen' m hfinished, rfl⟩

end Client

/-! ### Lives -/

/-- A link that is being read. -/
structure Reading where
  /-- How many texts it took at first. -/
  room : Option Nat
  /-- What its socket says. -/
  messages : List SocketMessage
  /-- What has not been read yet. -/
  inbox : List LinkEvent

/-- The attempt that brought a link. -/
def Reading.trial (r : Reading) : Trial := .link r.room r.messages

/-- A client, what its connector brings, and what has happened. -/
structure Life (κ : Type) where
  /-- The client. -/
  client : Client κ
  /-- What will come of the attempts that have not been made. -/
  coming : List Trial
  /-- What came of the attempts that are over, the oldest first: they failed, or their links
  have ended. -/
  past : List Trial := []
  /-- The link that is being read. -/
  current : Option Reading := none
  /-- The texts that were handled and the calls that were made, the oldest first. -/
  history : List (Deed κ) := []
  /-- The callbacks that have been run and their events, the oldest first. -/
  received : List (κ × Event) := []

/-- What happens to a client that is not shut down. -/
inductive LifeEvent (κ : Type) where
  /-- A caller starts it. -/
  | start
  /-- Its task goes on, if there is something for it to do. -/
  | go
  /-- A caller uses its manager. -/
  | call (c : Call κ)
  /-- A link takes nothing any more. -/
  | refuse (link : Nat)

namespace Life

variable {κ : Type}

/-- What callbacks do with the manager for an event, depending on all that they can see. -/
abbrev Conduct (κ : Type) := Life κ → κ → Event → List (Call κ)

/-- A client that has not been started, with a connector. -/
def new (config : Config) (script : List Trial) : Life κ where
  client := { manager := { config := config } }
  coming := script

/-- Change the manager. -/
def changeManager (l : Life κ) (f : Manager κ → Manager κ) : Life κ :=
  { l with client := { l.client with manager := f l.client.manager } }

/-- Use the manager. -/
def call (l : Life κ) (c : Call κ) : Life κ :=
  { l.changeManager (·.call c) with history := l.history ++ [.call c] }

/-- Run a callback: it receives the event and uses the manager. -/
def callback (react : Conduct κ) (c : κ) (e : Event) (l : Life κ) : Life κ :=
  (react l c e).foldl call { l with received := l.received ++ [(c, e)] }

/-- Handle a text. -/
def handle (react : Conduct κ) (l : Life κ) (text : String) : Life κ :=
  let handling : StateM (Life κ) Unit :=
    Manager.handle (do return (← get).client.manager)
      (fun change => modify (changeManager · change))
      (fun c e => modify (callback react c e)) text
  (handling.run { l with history := l.history ++ [.text text] }).2

/-- The task wakes. -/
def wake (l : Life κ) (w : Wake) : Life κ := { l with client := l.client.wake 0 w }

/-- The task makes its next attempt, if there is one. -/
def attempt (l : Life κ) : Life κ :=
  match l.coming with
  | [] => l
  | .failed :: rest => { l.wake .failed with coming := rest, past := l.past ++ [.failed] }
  | .link room messages :: rest =>
    { l.wake (.connected ⟨l.client.manager.connections + 1, room⟩) with
      coming := rest
      current := some ⟨room, messages, linkEvents messages⟩ }

/-- The task reads what its link delivers next. -/
def read (react : Conduct κ) (l : Life κ) (r : Reading) : Life κ :=
  match r.inbox with
  | .frame text :: rest => handle react { l with current := some { r with inbox := rest } } text
  | _ => { l.wake .ended with past := l.past ++ [r.trial], current := none }

/-- The task goes on, if there is something for it to do. -/
def go (react : Conduct κ) (l : Life κ) : Life κ :=
  match l.client.stage?, l.current with
  | some .spawned, _ => l.wake .begin
  | some .connecting, _ => l.attempt
  | some (.reading _), some r => l.read react r
  | some .sleeping, _ => l.wake .due
  | _, _ => l

/-- A client after an event. -/
def advance (react : Conduct κ) (l : Life κ) : LifeEvent κ → Life κ
  | .start => { l with client := l.client.start }
  | .go => l.go react
  | .call c => l.call c
  | .refuse link => l.changeManager (·.stop link)

/-- A client after some events. -/
def run (react : Conduct κ) (l : Life κ) (es : List (LifeEvent κ)) : Life κ :=
  es.foldl (advance react) l

variable (react : Conduct κ)

theorem run_concat (l : Life κ) (es : List (LifeEvent κ)) (e : LifeEvent κ) :
    l.run react (es ++ [e]) = (l.run react es).advance react e := by
  simp [run]

/-! ### What handling a text can do -/

/-- A life in which callbacks have been run and have used the manager. -/
def served (l : Life κ) (calls : List (Call κ)) (deliveries : List (κ × Event)) : Life κ :=
  { l.changeManager (·.callAll calls) with
    history := l.history ++ calls.map .call
    received := l.received ++ deliveries }

/-- Calls that are made one after the other. -/
theorem foldl_call (l : Life κ) (calls : List (Call κ)) :
    calls.foldl call l = l.served calls [] := by
  induction calls generalizing l with
  | nil => simp [served, changeManager, Manager.callAll]
  | cons c cs ih =>
    rw [List.foldl_cons, ih]
    simp [served, call, changeManager, Manager.callAll]

/-- Callbacks that are run one after the other. -/
theorem exists_foldl_callback (l : Life κ) (deliveries : List (κ × Event)) :
    ∃ calls, deliveries.foldl (fun l d => l.callback react d.1 d.2) l =
      l.served calls deliveries := by
  induction deliveries generalizing l with
  | nil => exact ⟨[], by simp [served, changeManager, Manager.callAll]⟩
  | cons d ds ih =>
    obtain ⟨calls, hcalls⟩ := ih (l.callback react d.1 d.2)
    refine ⟨react l d.1 d.2 ++ calls, ?_⟩
    rw [List.foldl_cons, hcalls, callback, foldl_call]
    simp [served, changeManager, Manager.callAll]

/-- All that handling a text can do: it is counted and noted, the callbacks of its stream
receive its event, and they make some calls. -/
theorem exists_handle_eq (l : Life κ) (text : String) :
    ∃ calls x, l.handle react text =
      { l with
        client :=
          { l.client with manager := (l.client.manager.received.callAll calls).tally x }
        history := l.history ++ .text text :: calls.map .call
        received := l.received ++ l.client.manager.deliveries text } := by
  have hrun := Manager.run_handle (fun l : Life κ => l.client.manager)
    (fun change l => l.changeManager change) (callback react) text
    { l with history := l.history ++ [.text text] }
  obtain ⟨calls, hcalls⟩ := exists_foldl_callback react
    (changeManager { l with history := l.history ++ [.text text] } Manager.received)
    (l.client.manager.deliveries text)
  refine ⟨calls, l.client.manager.received.outcome text, ?_⟩
  have hdeliveries : (changeManager { l with history := l.history ++ [.text text] }
      Manager.received).client.manager.deliveries text = l.client.manager.deliveries text := rfl
  rw [hdeliveries, hcalls] at hrun
  have hhandle : l.handle react text = _ := congrArg Prod.snd hrun
  rw [hhandle]
  simp [served, changeManager]

/-! ### What the task can do -/

/-- The client has at most one task, which reads a link iff there is one that is read. -/
def Steady (l : Life κ) : Prop :=
  ∃ s, l.client.IsAt s ∧ (l.current.isSome = true ↔ ∃ link, s = some (.reading link))

/-- All that the task can do when it goes on. -/
inductive Went (l : Life κ) : Life κ → Prop
  /-- There is nothing to do: the client has not been started, or no further attempt comes to an
  end. -/
  | waits (hcurrent : l.current = none)
      (hstage : l.client.stage? = none ∨ l.client.stage? = some .connecting ∧ l.coming = []) :
      Went l l
  /-- A round begins. -/
  | begins (c : Client κ) (hcurrent : l.current = none)
      (hstage : l.client.stage? = some .spawned ∨ l.client.stage? = some .sleeping)
      (hc : c.IsAt (some .connecting)) (hmanager : c.manager = l.client.manager.connecting) :
      Went l { l with client := c }
  /-- An attempt fails. -/
  | fails (c : Client κ) (rest : List Trial) (hcurrent : l.current = none)
      (hstage : l.client.stage? = some .connecting) (hcoming : l.coming = .failed :: rest)
      (hc : c.IsAt (some .sleeping)) (hmanager : c.manager = l.client.manager.dropped) :
      Went l { l with client := c, coming := rest, past := l.past ++ [.failed] }
  /-- An attempt brings a link. -/
  | links (c : Client κ) (link : Nat) (room : Option Nat) (messages : List SocketMessage)
      (rest : List Trial) (hcurrent : l.current = none)
      (hstage : l.client.stage? = some .connecting)
      (hcoming : l.coming = .link room messages :: rest)
      (hc : c.IsAt (some (.reading link)))
      (hmanager : c.manager = l.client.manager.ready ⟨link, room⟩) :
      Went l
        { l with
          client := c, coming := rest, current := some ⟨room, messages, linkEvents messages⟩ }
  /-- The link delivers a text: it is handled, and callbacks make some calls. -/
  | reads (r : Reading) (text : String) (inbox : List LinkEvent) (calls : List (Call κ))
      (x : Except FrameError Nat) (hcurrent : l.current = some r)
      (hinbox : r.inbox = .frame text :: inbox) :
      Went l
        { l with
          client :=
            { l.client with manager := (l.client.manager.received.callAll calls).tally x }
          current := some { r with inbox := inbox }
          history := l.history ++ .text text :: calls.map .call
          received := l.received ++ l.client.manager.deliveries text }
  /-- The link has ended. -/
  | ends (c : Client κ) (r : Reading) (hcurrent : l.current = some r)
      (hinbox : ∀ text inbox, r.inbox ≠ .frame text :: inbox)
      (hc : c.IsAt (some .sleeping)) (hmanager : c.manager = l.client.manager.dropped) :
      Went l { l with client := c, past := l.past ++ [r.trial], current := none }

/-- Nothing else can happen when the task goes on. -/
theorem went_go {l : Life κ} (h : l.Steady) : Went l (l.go react) := by
  obtain ⟨s, hs, hreading⟩ := h
  have hstage := hs.stage?_eq
  unfold go
  rw [hstage]
  cases s with
  | none =>
    have hcurrent : l.current = none := by simpa using hreading
    exact .waits hcurrent (.inl hstage)
  | some stage =>
    cases stage with
    | spawned =>
      have hcurrent : l.current = none := by simpa using hreading
      have hwake := hs.wake_spec (w := .begin) rfl
      exact .begins _ hcurrent (.inl hstage) hwake.1 hwake.2
    | connecting =>
      have hcurrent : l.current = none := by simpa using hreading
      dsimp only
      unfold attempt
      cases hcoming : l.coming with
      | nil => exact .waits hcurrent (.inr ⟨hstage, hcoming⟩)
      | cons trial rest =>
        cases trial with
        | failed =>
          have hwake := hs.wake_spec (w := .failed) rfl
          exact .fails _ rest hcurrent hstage hcoming hwake.1 hwake.2
        | link room messages =>
          have hwake :=
            hs.wake_spec (w := .connected ⟨l.client.manager.connections + 1, room⟩) rfl
          exact .links _ _ room messages rest hcurrent hstage hcoming hwake.1 hwake.2
    | reading link =>
      have hsome : l.current.isSome = true := hreading.2 ⟨link, rfl⟩
      obtain ⟨r, hcurrent⟩ := Option.isSome_iff_exists.1 hsome
      rw [hcurrent]
      dsimp only
      unfold read
      split
      · next text inbox hinbox =>
        obtain ⟨calls, x, hhandle⟩ :=
          exists_handle_eq react { l with current := some { r with inbox := inbox } } text
        rw [hhandle]
        exact .reads r text inbox calls x hcurrent hinbox
      · next hinbox =>
        have hwake := hs.wake_spec (w := .ended) rfl
        exact .ends _ r hcurrent hinbox hwake.1 hwake.2
    | sleeping =>
      have hcurrent : l.current = none := by simpa using hreading
      have hwake := hs.wake_spec (w := .due) rfl
      exact .begins _ hcurrent (.inr hstage) hwake.1 hwake.2
    | finished =>
      cases hs with
      | task _ seen hfinished htasks hslot hstop => exact absurd rfl hfinished

/-- A client has at most one task before it is started. -/
theorem steady_new (config : Config) (script : List Trial) : (new config script : Life κ).Steady :=
  ⟨none, .idle rfl rfl, by simp [new]⟩

/-- Whatever the task does, it stays the only one. -/
theorem Steady.went {l l' : Life κ} (h : l.Steady) (hwent : Went l l') : l'.Steady := by
  cases hwent with
  | waits hcurrent hstage => exact h
  | begins c hcurrent hstage hc hmanager => exact ⟨_, hc, by simp [hcurrent]⟩
  | fails c rest hcurrent hstage hcoming hc hmanager => exact ⟨_, hc, by simp [hcurrent]⟩
  | links c link room messages rest hcurrent hstage hcoming hc hmanager =>
    exact ⟨_, hc, by simp⟩
  | reads r text inbox calls x hcurrent hinbox =>
    obtain ⟨s, hs, hreading⟩ := h
    exact ⟨s, hs.withManager _, by simpa [hcurrent] using hreading⟩
  | ends c r hcurrent hinbox hc hmanager => exact ⟨_, hc, by simp⟩

/-- An event leaves a client with at most one task, which reads a link iff there is one. -/
theorem Steady.advance {l : Life κ} (h : l.Steady) (e : LifeEvent κ) :
    (l.advance react e).Steady := by
  cases e with
  | start =>
    obtain ⟨s, hs, hreading⟩ := h
    cases s with
    | none =>
      have hcurrent : l.current = none := by simpa using hreading
      exact ⟨some .spawned, hs.start_of_idle.1, by simp [Life.advance, hcurrent]⟩
    | some stage =>
      refine ⟨some stage, ?_, hreading⟩
      rw [Life.advance, hs.start_of_task]
      exact hs
  | go => exact h.went (went_go react h)
  | call c =>
    obtain ⟨s, hs, hreading⟩ := h
    exact ⟨s, hs.withManager _, hreading⟩
  | refuse link =>
    obtain ⟨s, hs, hreading⟩ := h
    exact ⟨s, hs.withManager _, hreading⟩

end Life

end BookFeed.Connection
