import Mathlib.Data.List.Induction
import BookFeed.Connection.Lifecycle
import BookFeed.Connection.Subscription

set_option autoImplicit false

/-!
# Runs of a client

What happens to a manager is a list of transitions: requests are submitted, wishes are repeated,
and links come, stop taking texts and go. What happens to a client is a list of events:
transitions of its manager, callers that start and shut down, and tasks that wake. Links are
numbered from one, in the order in which they become ready.

Whatever callers and tasks do, they act on the manager by transitions; so what holds after every
list of transitions holds of every run of a client.

## Main definitions

* `BookFeed.Connection.Turn`, `BookFeed.Connection.Transition` — what happens to a manager.
* `BookFeed.Connection.Manager.advance`, `BookFeed.Connection.Manager.run` — a manager after
  it.
* `BookFeed.Connection.Manager.issued` — the numbers that callers are answered.
* `BookFeed.Connection.ClientEvent`, `BookFeed.Connection.Client.run` — what happens to a
  client.
* `BookFeed.Connection.Client.issued` — the numbers that its callers are answered.
* `BookFeed.Connection.Client.transitions` — what happens to the manager in a run of a client.

## Main results

* `BookFeed.Connection.Manager.advance_cases` — all that a transition can do.
* `BookFeed.Connection.Manager.submit_cases` — all that can come of a request.
* `BookFeed.Connection.Manager.ready_cases` — all that can come of a new link.
* `BookFeed.Connection.Client.manager_run`, `BookFeed.Connection.Client.issued_eq` — runs of
  clients are runs of managers.
-/

namespace BookFeed.Connection

open Feed

/-! ### Transitions -/

/-- What becomes of the link. -/
inductive Turn where
  /-- A link is being made: the first one, the next one, or one after a new start. -/
  | connecting
  /-- A new link is ready, which takes `room` texts before it stops. -/
  | ready (room : Option Nat)
  /-- A link takes nothing any more. -/
  | refusing (link : Nat)
  /-- The link has ended, or the client has been shut down. -/
  | closed
  /-- The link has ended or an attempt has failed, and there will be another one. -/
  | dropped
deriving DecidableEq, Repr

/-- What happens to a manager. -/
inductive Transition where
  /-- A request is submitted. -/
  | submit (r : Request)
  /-- A timer repeats the wish for a stream. -/
  | repeatWish (stream : String)
  /-- The link changes. -/
  | turn (t : Turn)
deriving DecidableEq, Repr

namespace Manager

variable {κ : Type}

/-- A manager after a turn of its link. A link that becomes ready gets the next number. -/
def turn (m : Manager κ) : Turn → Manager κ
  | .connecting => m.connecting
  | .ready room => m.ready ⟨m.connections + 1, room⟩
  | .refusing link => m.stop link
  | .closed => m.closed
  | .dropped => m.dropped

/-- A manager after a transition. -/
def advance (m : Manager κ) : Transition → Manager κ
  | .submit r => (m.submit r).1
  | .repeatWish stream => m.repeatSubscription stream
  | .turn t => m.turn t

/-- The number that a submitted request is answered, if the transition submits one. -/
def answer (m : Manager κ) : Transition → Option Nat
  | .submit r => some (m.submit r).2
  | .repeatWish stream =>
    if m.outbox.isOpen then some (m.submit (.subscribe stream)).2 else none
  | .turn _ => none

/-- All that a transition can do: nothing, submitting a request, or turning the link. -/
theorem advance_cases (m : Manager κ) (t : Transition) :
    (m.advance t = m ∧ m.answer t = none) ∨
    (∃ r, m.advance t = (m.submit r).1 ∧ m.answer t = some (m.submit r).2) ∨
    ∃ turn, m.advance t = m.turn turn ∧ m.answer t = none := by
  cases t with
  | submit r => exact Or.inr (Or.inl ⟨r, rfl, rfl⟩)
  | repeatWish stream =>
    simp only [advance, answer, repeatSubscription]
    split
    · exact Or.inr (Or.inl ⟨_, rfl, rfl⟩)
    · exact Or.inl ⟨rfl, rfl⟩
  | turn turn => exact Or.inr (Or.inr ⟨turn, rfl, rfl⟩)

/-- A manager after some transitions. -/
def run (m : Manager κ) (ts : List Transition) : Manager κ := ts.foldl advance m

/-- The numbers that submitted requests are answered, in order. -/
def issued : Manager κ → List Transition → List Nat
  | _, [] => []
  | m, t :: ts => (m.answer t).toList ++ issued (m.advance t) ts

/-- One more transition. -/
theorem run_concat (m : Manager κ) (ts : List Transition) (t : Transition) :
    m.run (ts ++ [t]) = (m.run ts).advance t := by
  simp [run]

/-- Transitions can be run in two parts. -/
theorem run_append (m : Manager κ) (ts ts' : List Transition) :
    m.run (ts ++ ts') = (m.run ts).run ts' := by
  simp [run]

/-- The answers of two parts. -/
theorem issued_append (m : Manager κ) (ts ts' : List Transition) :
    m.issued (ts ++ ts') = m.issued ts ++ (m.run ts).issued ts' := by
  induction ts generalizing m with
  | nil => rfl
  | cons t ts ih => simp [issued, ih, run]

/-- What one transition keeps, a run keeps. -/
theorem run_induction {P : Manager κ → Prop} (hstep : ∀ m t, P m → P (m.advance t))
    {m : Manager κ} (h : P m) (ts : List Transition) : P (m.run ts) := by
  induction ts using List.reverseRecOn with
  | nil => exact h
  | append_singleton ts t ih =>
    rw [run_concat]
    exact hstep _ t ih

end Manager

/-! ### What one operation can do -/

namespace Sink

/-- A link takes the first requests of a batch and leaves the others. -/
theorem taken_append_left (s : Sink) (rs : List Request) :
    (s.hand rs).taken ++ (s.hand rs).left = rs := by
  unfold hand
  split <;> simp

/-- Taking texts does not change the number of a link. -/
@[simp] theorem link_hand (s : Sink) (rs : List Request) : (s.hand rs).sink.link = s.link := by
  unfold hand
  split <;> rfl

/-- What a link takes of a batch is its start. -/
theorem taken_eq_take (s : Sink) (rs : List Request) :
    (s.hand rs).taken = rs.take (s.hand rs).taken.length := by
  calc (s.hand rs).taken
      = ((s.hand rs).taken ++ (s.hand rs).left).take (s.hand rs).taken.length := by
        rw [List.take_left]
    _ = rs.take (s.hand rs).taken.length := by rw [taken_append_left]

end Sink

namespace Outbox

/-- The request of an outbox with its number. -/
def stamp (o : Outbox) (r : Request) : Request := r.withId o.nextId

/-- All that can come of a new link. Either it leaves some of the queue, or it takes the queue
and refuses a replayed subscription, whose number is lost, or it takes all and the outbox is
open. -/
theorem ready_cases (o : Outbox) (s : Sink) :
    (∃ taken left, taken ++ left = o.pending ∧
      o.ready s = ({ o with pending := left }, taken)) ∨
    (∃ n, n < o.replay.length ∧ o.ready s =
      ({ o with nextId := o.nextId + n + 1, pending := [] }, o.pending ++ o.replay.take n)) ∨
    (∃ s' : Sink, s'.link = s.link ∧ o.ready s =
      ({ o with
          phase := .opened
          nextId := o.nextId + o.replay.length
          pending := []
          sink := some s' }, o.pending ++ o.replay)) := by
  have hqueue := s.taken_append_left o.pending
  by_cases hq : (s.hand o.pending).left = []
  · have hall : (s.hand o.pending).taken = o.pending := by
      rwa [hq, List.append_nil] at hqueue
    have hreplay := (s.hand o.pending).sink.taken_append_left o.replay
    by_cases hr : ((s.hand o.pending).sink.hand o.replay).left = []
    · have hall' : ((s.hand o.pending).sink.hand o.replay).taken = o.replay := by
        rwa [hr, List.append_nil] at hreplay
      exact Or.inr (Or.inr ⟨((s.hand o.pending).sink.hand o.replay).sink, by simp,
        by simp [ready, hq, hr, hall, hall']⟩)
    · refine Or.inr (Or.inl ⟨((s.hand o.pending).sink.hand o.replay).taken.length, ?_, ?_⟩)
      · have hlen := congrArg List.length hreplay
        have hpos := List.length_pos_iff.2 hr
        rw [List.length_append] at hlen
        omega
      · rw [← Sink.taken_eq_take]
        simp [ready, hq, hr, hall]
  · exact Or.inl ⟨_, _, hqueue, by simp [ready, hq]⟩

end Outbox

namespace Written

/-- Requests as texts that a link has taken. -/
def batch (link : Nat) (rs : List Request) : List Written := rs.map (⟨link, ·⟩)

/-- The requests of a batch. -/
@[simp] theorem map_request_batch (link : Nat) (rs : List Request) :
    (batch link rs).map (·.request) = rs := by
  simp [batch, Function.comp_def]

/-- The link of a batch. -/
theorem link_of_mem_batch {link : Nat} {rs : List Request} {w : Written} (h : w ∈ batch link rs) :
    w.link = link := by
  obtain ⟨r, -, rfl⟩ := List.mem_map.1 h
  rfl

end Written

namespace Manager

variable {κ : Type}

/-- An open link that takes texts takes a request at once. -/
theorem submit_of_openSink {m : Manager κ} {s : Sink} (h : m.outbox.openSink = some s)
    (r : Request) :
    (m.submit r).1 =
      { m with
        outbox :=
          { m.outbox with
            nextId := m.outbox.nextId + 1
            active := Outbox.track m.outbox.active (m.outbox.stamp r)
            sink := some (s.hand [m.outbox.stamp r]).sink } }.record s.link
        [m.outbox.stamp r] := by
  have hopen : Outbox.openSink
      { m.outbox with
        nextId := m.outbox.nextId + 1
        active := Outbox.track m.outbox.active (m.outbox.stamp r) } = some s := h
  simp only [submit, Outbox.submit, Outbox.stamp] at hopen ⊢
  rw [hopen]

/-- Otherwise it waits. -/
theorem submit_of_waiting {m : Manager κ} (h : m.outbox.openSink = none) (r : Request) :
    (m.submit r).1 =
      { m with
        outbox :=
          { m.outbox with
            nextId := m.outbox.nextId + 1
            active := Outbox.track m.outbox.active (m.outbox.stamp r)
            pending := m.outbox.pending ++ [m.outbox.stamp r] }
        counters :=
          { m.counters with requestsBuffered := m.counters.requestsBuffered + 1 } } := by
  have hopen : Outbox.openSink
      { m.outbox with
        nextId := m.outbox.nextId + 1
        active := Outbox.track m.outbox.active (m.outbox.stamp r) } = none := h
  simp only [submit, Outbox.submit, Outbox.stamp] at hopen ⊢
  rw [hopen]

/-- All that can come of a request: an open link that takes texts takes it, or it waits. -/
theorem submit_cases (m : Manager κ) (r : Request) :
    (∃ s s' : Sink, m.outbox.openSink = some s ∧ s'.link = s.link ∧
      (m.submit r).1.outbox =
        { m.outbox with
          nextId := m.outbox.nextId + 1
          active := Outbox.track m.outbox.active (m.outbox.stamp r)
          sink := some s' } ∧
      (m.submit r).1.written = m.written ++ Written.batch s.link [m.outbox.stamp r]) ∨
    (m.outbox.openSink = none ∧
      (m.submit r).1.outbox =
        { m.outbox with
          nextId := m.outbox.nextId + 1
          active := Outbox.track m.outbox.active (m.outbox.stamp r)
          pending := m.outbox.pending ++ [m.outbox.stamp r] } ∧
      (m.submit r).1.written = m.written) := by
  cases h : m.outbox.openSink with
  | some s =>
    refine Or.inl ⟨s, (s.hand [m.outbox.stamp r]).sink, rfl, s.link_hand _, ?_⟩
    rw [submit_of_openSink h]
    exact ⟨rfl, rfl⟩
  | none =>
    refine Or.inr ⟨rfl, ?_⟩
    rw [submit_of_waiting h]
    exact ⟨rfl, rfl⟩

/-- All that can come of a new link, with what it has taken. -/
theorem ready_cases (m : Manager κ) (s : Sink) :
    (∃ taken left, taken ++ left = m.outbox.pending ∧
      (m.ready s).outbox = { m.outbox with pending := left } ∧
      (m.ready s).written = m.written ++ Written.batch s.link taken) ∨
    (∃ n, n < m.outbox.replay.length ∧
      (m.ready s).outbox = { m.outbox with nextId := m.outbox.nextId + n + 1, pending := [] } ∧
      (m.ready s).written =
        m.written ++ Written.batch s.link (m.outbox.pending ++ m.outbox.replay.take n)) ∨
    (∃ s' : Sink, s'.link = s.link ∧
      (m.ready s).outbox =
        { m.outbox with
          phase := .opened
          nextId := m.outbox.nextId + m.outbox.replay.length
          pending := []
          sink := some s' } ∧
      (m.ready s).written =
        m.written ++ Written.batch s.link (m.outbox.pending ++ m.outbox.replay)) := by
  rcases m.outbox.ready_cases s with
    ⟨taken, left, hsplit, hready⟩ | ⟨n, hn, hready⟩ | ⟨s', hlink, hready⟩
  · exact Or.inl ⟨taken, left, hsplit, by simp [ready, record, Written.batch, hready]⟩
  · exact Or.inr (Or.inl ⟨n, hn, by simp [ready, record, Written.batch, hready]⟩)
  · exact Or.inr (Or.inr ⟨s', hlink, by simp [ready, record, Written.batch, hready]⟩)

end Manager

/-! ### Clients -/

/-- What happens to a client. -/
inductive ClientEvent where
  /-- Its manager is used. -/
  | manager (t : Transition)
  /-- A caller starts it. -/
  | start
  /-- A caller begins to shut it down. -/
  | requestStop
  /-- A caller that waits for a task ends shutting down, if that task has ended. -/
  | finishStop (task : Option Nat)
  /-- A task wakes. -/
  | wake (task : Nat) (w : Wake)
deriving DecidableEq, Repr

/-- A wake with a new link, if it has one, of the given number. -/
def Wake.numbered (link : Nat) : Wake → Wake
  | .connected s => .connected { s with link := link }
  | w => w

namespace Client

variable {κ : Type}

/-- A client after an event. A link that becomes ready gets the next number. -/
def advance (c : Client κ) : ClientEvent → Client κ
  | .manager t => { c with manager := c.manager.advance t }
  | .start => c.start
  | .requestStop => c.requestStop.1
  | .finishStop task => if c.canFinishStop task then c.finishStop else c
  | .wake task w => c.wake task (w.numbered (c.manager.connections + 1))

/-- The number that a submitted request is answered, if the event submits one. -/
def answer (c : Client κ) : ClientEvent → Option Nat
  | .manager t => c.manager.answer t
  | _ => none

/-- A client after some events. -/
def run (c : Client κ) (es : List ClientEvent) : Client κ := es.foldl advance c

/-- The numbers that submitted requests are answered, in order. -/
def issued : Client κ → List ClientEvent → List Nat
  | _, [] => []
  | c, e :: es => (c.answer e).toList ++ issued (c.advance e) es

/-- A client to which nothing has happened. -/
def idle (config : Config) : Client κ := { manager := { config := config } }

/-- Starting a client leaves its manager alone. -/
theorem start_manager (c : Client κ) : c.start.manager = c.manager := by
  unfold start
  split <;> rfl

/-- The turn that a new round gives the link: the flag is raised, or a link is made. -/
def roundTurn (c : Client κ) : Turn := if c.stop.raised then .closed else .connecting

/-- The turn that a task gives the link when it wakes, if it does. -/
def turn? (c : Client κ) (task : Nat) (w : Wake) : Option Turn :=
  match c.tasks[task]? with
  | none => none
  | some t =>
    match w, t.stage with
    | .begin, .spawned => some c.roundTurn
    | .connected s, .connecting => some (.ready s.room)
    | .failed, .connecting => some .dropped
    | .ended, .reading _ => some .dropped
    | .due, .sleeping => some c.roundTurn
    | .stopSeen, _ => if c.seesStop t then some .closed else none
    | _, _ => none

/-- What happens to the manager of a client in an event, if anything does. -/
def transition? (c : Client κ) : ClientEvent → Option Transition
  | .manager t => some t
  | .start => none
  | .requestStop => none
  | .finishStop task => if c.canFinishStop task then some (.turn .closed) else none
  | .wake task w => (c.turn? task w).map .turn

/-- What happens to the manager of a client in a run. -/
def transitions : Client κ → List ClientEvent → List Transition
  | _, [] => []
  | c, e :: es => (c.transition? e).toList ++ transitions (c.advance e) es

theorem manager_beginRound (c : Client κ) (task : Nat) (t : Task) :
    (c.beginRound task t).manager = c.manager.turn c.roundTurn := by
  unfold beginRound roundTurn
  split <;> rfl

theorem manager_halt (c : Client κ) (task : Nat) {t : Task} (h : t.stage ≠ .spawned)
    (h' : t.stage ≠ .finished) :
    (c.halt task t).manager = (if c.seesStop t then some .closed else none).elim c.manager
      c.manager.turn := by
  have hsees : c.seesStop t = decide (t.seen < c.stop.version) := by
    unfold seesStop
    cases hstage : t.stage <;> simp_all
  unfold halt
  rw [hsees]
  split <;> next hseen => simp [hseen, Manager.turn]

/-- A task that wakes does to the manager what the link is turned to. -/
theorem manager_wake (c : Client κ) (task : Nat) (w : Wake) :
    (c.wake task (w.numbered (c.manager.connections + 1))).manager =
      (c.turn? task w).elim c.manager c.manager.turn := by
  unfold wake turn?
  cases c.tasks[task]? with
  | none => rfl
  | some t =>
    obtain ⟨stage, seen⟩ := t
    cases w with
    | begin =>
      cases stage with
      | spawned => exact c.manager_beginRound task _
      | _ => rfl
    | connected s => cases stage <;> rfl
    | failed => cases stage <;> rfl
    | ended => cases stage <;> rfl
    | due =>
      cases stage with
      | sleeping => exact c.manager_beginRound task _
      | _ => rfl
    | stopSeen =>
      cases stage with
      | spawned | finished => simp [Wake.numbered, seesStop]
      | _ => exact c.manager_halt task (by simp) (by simp)
    | broken => cases stage <;> rfl

/-- An event of a client is at most one transition of its manager. -/
theorem manager_advance (c : Client κ) (e : ClientEvent) :
    (c.advance e).manager = c.manager.run (c.transition? e).toList := by
  cases e with
  | manager t => rfl
  | start => exact c.start_manager
  | requestStop => rfl
  | finishStop task =>
    simp only [advance, transition?]
    split <;> rfl
  | wake task w =>
    rw [advance, transition?, manager_wake]
    cases c.turn? task w <;> rfl

theorem answer_eq (c : Client κ) (e : ClientEvent) :
    (c.answer e).toList = c.manager.issued (c.transition? e).toList := by
  cases e with
  | manager t => simp [answer, transition?, Manager.issued]
  | start | requestStop => rfl
  | finishStop task =>
    simp only [answer, transition?]
    split <;> rfl
  | wake task w =>
    simp only [answer, transition?]
    cases c.turn? task w <;> rfl

/-- **Runs of clients are runs of managers.** Whatever callers and tasks do, the manager sees a
list of transitions. -/
theorem manager_run (c : Client κ) (es : List ClientEvent) :
    (c.run es).manager = c.manager.run (c.transitions es) := by
  induction es generalizing c with
  | nil => rfl
  | cons e es ih =>
    rw [transitions, Manager.run_append, ← manager_advance]
    exact ih (c.advance e)

/-- It gives the same answers. -/
theorem issued_eq (c : Client κ) (es : List ClientEvent) :
    c.issued es = c.manager.issued (c.transitions es) := by
  induction es generalizing c with
  | nil => rfl
  | cons e es ih =>
    rw [issued, transitions, Manager.issued_append, ← answer_eq, ← manager_advance, ih]

theorem exists_transitions (c : Client κ) (es : List ClientEvent) :
    ∃ ts, (c.run es).manager = c.manager.run ts ∧ c.issued es = c.manager.issued ts :=
  ⟨c.transitions es, c.manager_run es, c.issued_eq es⟩

end Client

end BookFeed.Connection
