import Mathlib.Logic.Function.Basic
import BookFeed.Proofs.Connection.Ledger
import BookFeed.Proofs.Connection.Reconnect

set_option autoImplicit false

/-!
# What a task can do

A client may have any number of tasks, one of which wakes at a time. What a wake does to the
stages of the tasks and to the manager comes down to five cases: the task has nothing to do, it
begins, it finds the flag raised before it has begun, it gets a link, or it leaves what it was
doing. The other tasks stay as they are, and a task that has ended does not come back.

What users do with a manager leaves its link alone: the phase, the link whose writing end is
held, and the number of links.

## Main definitions

* `BookFeed.Connection.Manager.heldLink` — the link whose writing end is held.
* `BookFeed.Connection.Manager.SameLink` — a change that leaves the link alone.
* `BookFeed.Connection.Client.stageOf` — what a task is doing.
* `BookFeed.Connection.Client.Woken` — all that a task can do when it wakes.

## Main results

* `BookFeed.Connection.Manager.serves_of_makesReady` — what a link that takes all leads to.
* `BookFeed.Connection.Client.woken_begin`, `woken_connected`, `woken_failed`, `woken_ended`,
  `woken_due`, `woken_stopSeen`, `woken_broken` — what becomes of each kind of wake.
* `BookFeed.Connection.Client.woken_wake` — nothing else can happen when a task wakes.
-/

namespace BookFeed.Connection

open Feed

variable {κ : Type}

/-! ### The link that is held -/

/-- Whether a new link takes the queue and the replay, so that the outbox is open with it. -/
def Outbox.makesReady (o : Outbox) (s : Sink) : Bool :=
  let queue := s.hand o.pending
  queue.left.isEmpty && (queue.sink.hand o.replay).left.isEmpty

namespace Manager

/-- The link whose writing end is held. -/
def heldLink (m : Manager κ) : Option Nat := m.outbox.sink.map (·.link)

theorem serves_of_makesReady {m : Manager κ} {s : Sink} (h : m.outbox.makesReady s = true) :
    (m.ready s).outbox.phase = .opened ∧ (m.ready s).heldLink = some s.link := by
  obtain ⟨hqueue, hreplay⟩ : (s.hand m.outbox.pending).left = [] ∧
      ((s.hand m.outbox.pending).sink.hand m.outbox.replay).left = [] := by
    simpa [Outbox.makesReady] using h
  simp [ready, record, heldLink, Outbox.ready, hqueue, hreplay]

/-- A change that leaves the phase, the link and the number of links alone. -/
structure SameLink (m m' : Manager κ) : Prop where
  /-- Whether a link is being made, there is one, or there is none. -/
  phase : m'.outbox.phase = m.outbox.phase
  /-- The link whose writing end is held. -/
  heldLink : m'.heldLink = m.heldLink
  /-- How many links there have been. -/
  connections : m'.connections = m.connections

theorem SameLink.of_gauge {m m' : Manager κ} (hgauge : m'.gauge = m.gauge)
    (hheld : m'.heldLink = m.heldLink) : m.SameLink m' :=
  ⟨congrArg Gauge.phase hgauge, hheld, congrArg Gauge.connections hgauge⟩

theorem heldLink_submit (m : Manager κ) (r : Request) : (m.submit r).1.heldLink = m.heldLink := by
  unfold heldLink
  rcases m.submit_cases r with ⟨s, s', hopen, hlink, h, -⟩ | ⟨-, h, -⟩
  · -- the link that took the request is the one that was held
    have hsink := (Outbox.openSink_eq_some_iff.1 hopen).2.1
    rw [h, hsink, Option.map_some, Option.map_some, hlink]
  · rw [h]

theorem heldLink_callAll (m : Manager κ) (calls : List (Call κ)) :
    (m.callAll calls).heldLink = m.heldLink := by
  induction calls generalizing m with
  | nil => rfl
  | cons c cs ih =>
    have hone : (m.call c).heldLink = m.heldLink := by
      cases c with
      | submit r => exact m.heldLink_submit r
      | repeatWish stream =>
        simp only [call, repeatSubscription]
        split
        · exact m.heldLink_submit _
        · rfl
      | register stream identity callback => rfl
      | deregister stream identity => rfl
    exact (ih _).trans hone

theorem sameLink_callAll (m : Manager κ) (calls : List (Call κ)) :
    m.SameLink (m.callAll calls) :=
  .of_gauge (m.gauge_callAll calls) (m.heldLink_callAll calls)

theorem sameLink_stop (m : Manager κ) (link : Nat) : m.SameLink (m.stop link) := by
  refine .of_gauge (m.gauge_stop link) ?_
  unfold heldLink stop Outbox.stop
  cases m.outbox.sink with
  | none => rfl
  | some s =>
    simp only [Option.map_some]
    split <;> rfl

theorem sameLink_handled (m : Manager κ) (calls : List (Call κ)) (x : Except FrameError Nat) :
    m.SameLink ((m.received.callAll calls).tally x) := by
  have hcalls := m.received.sameLink_callAll calls
  have htally : ((m.received.callAll calls).tally x).heldLink =
      (m.received.callAll calls).heldLink := by
    rw [heldLink, outbox_tally, heldLink]
  have hcounted := SameLink.of_gauge ((m.received.callAll calls).gauge_tally x) htally
  exact ⟨hcounted.phase.trans hcalls.phase, hcounted.heldLink.trans hcalls.heldLink,
    hcounted.connections.trans hcalls.connections⟩

end Manager

/-! ### What a task can do -/

/-- Whether a task connects, reads or sleeps. -/
def Stage.isWorking : Stage → Bool
  | .connecting => true
  | .reading _ => true
  | .sleeping => true
  | .spawned => false
  | .finished => false

namespace Client

/-- What a task is doing; one that never was has ended. -/
def stageOf (c : Client κ) (task : Nat) : Stage := ((c.tasks[task]?).map (·.stage)).getD .finished

theorem isFinished_iff {c : Client κ} {task : Nat} :
    c.isFinished task = true ↔ c.stageOf task = .finished := by
  unfold isFinished stageOf
  cases c.tasks[task]? with
  | none => simp
  | some t => simp [Task.isFinished]

theorem stageOf_eq {c : Client κ} {task : Nat} {t : Task} (ht : c.tasks[task]? = some t) :
    c.stageOf task = t.stage := by
  simp [stageOf, ht]

theorem stageOf_launch (c : Client κ) :
    c.launch.stageOf = Function.update c.stageOf c.tasks.length .spawned := by
  funext j
  rcases Nat.lt_trichotomy j c.tasks.length with hj | rfl | hj
  · rw [Function.update_of_ne (Nat.ne_of_lt hj)]
    simp [stageOf, launch, List.getElem?_append_left hj]
  · simp [stageOf, launch]
  · rw [Function.update_of_ne (Nat.ne_of_gt hj)]
    have hlong : (c.tasks ++ [({} : Task)]).length ≤ j := by
      rw [List.length_append, List.length_singleton]
      omega
    simp [stageOf, launch, List.getElem?_eq_none hlong, List.getElem?_eq_none (Nat.le_of_lt hj)]

theorem stageOf_setTask {c : Client κ} {task : Nat} {t : Task} (ht : c.tasks[task]? = some t)
    (t' : Task) : (c.setTask task t').stageOf = Function.update c.stageOf task t'.stage := by
  obtain ⟨hlt, -⟩ := List.getElem?_eq_some_iff.1 ht
  funext j
  by_cases hj : j = task
  · subst hj
    simp [stageOf, setTask, hlt]
  · rw [Function.update_of_ne hj]
    simp [stageOf, setTask, List.getElem?_set_ne (Ne.symm hj)]

/-- The link that becomes ready when a task wakes, if one does. -/
def readied (c : Client κ) (task : Nat) : Wake → List Nat
  | .connected s =>
    if c.stageOf task = .connecting ∧ c.manager.outbox.makesReady s = true then [s.link] else []
  | _ => []

theorem mem_readied {c : Client κ} {task link : Nat} {s : Sink}
    (h : link ∈ c.readied task (.connected s)) :
    link = s.link ∧ c.manager.outbox.makesReady s = true := by
  simp only [readied] at h
  split at h
  · next hready => exact ⟨List.mem_singleton.1 h, hready.2⟩
  · cases h

/-- All that a task can do when it wakes. -/
inductive Woken (c : Client κ) (task : Nat) (c' : Client κ) : Wake → Prop
  /-- There is nothing to do. -/
  | rests {w : Wake} (hreadied : c.readied task w = []) (hc : c' = c) : Woken c task c' w
  /-- It runs for the first time and begins to connect. -/
  | begins (hstage : c.stageOf task = .spawned) (hraised : c.stop.raised = false)
      (hstages : c'.stageOf = Function.update c.stageOf task .connecting)
      (hmanager : c'.manager = c.manager.connecting) : Woken c task c' .begin
  /-- It runs for the first time and finds the flag raised. -/
  | declines (hstage : c.stageOf task = .spawned) (hraised : c.stop.raised = true)
      (hstages : c'.stageOf = Function.update c.stageOf task .finished)
      (hmanager : c'.manager = c.manager.closed) : Woken c task c' .begin
  /-- It gets a link. -/
  | links (s : Sink) (hstage : c.stageOf task = .connecting)
      (hstages : c'.stageOf = Function.update c.stageOf task (.reading s.link))
      (hmanager : c'.manager = c.manager.ready s) : Woken c task c' (.connected s)
  /-- It leaves what it was doing, and reads no link after that. -/
  | leaves {w : Wake} (stage : Stage) (hreadied : c.readied task w = [])
      (hstage : (c.stageOf task).isWorking = true)
      (hstages : c'.stageOf = Function.update c.stageOf task stage)
      (hreading : ∀ link, stage ≠ .reading link)
      (hconnections : c'.manager.connections = c.manager.connections) : Woken c task c' w

theorem stageOf_beginRound {c : Client κ} {task : Nat} {t : Task} (ht : c.tasks[task]? = some t)
    (t' : Task) :
    (c.beginRound task t').stageOf =
      Function.update c.stageOf task (if c.stop.raised then .finished else .connecting) := by
  unfold beginRound
  split <;> exact stageOf_setTask ht _

/-- A task that runs for the first time connects, or ends because the flag is raised. -/
theorem wake_begin {c : Client κ} {task : Nat} (h : c.stageOf task = .spawned) :
    (c.wake task .begin).stageOf =
        Function.update c.stageOf task (if c.stop.raised then .finished else .connecting) ∧
      (c.wake task .begin).manager =
        if c.stop.raised then c.manager.closed else c.manager.connecting := by
  cases ht : c.tasks[task]? with
  | none => simp [stageOf, ht] at h
  | some t =>
    have hspawned : t.stage = .spawned := by rwa [stageOf_eq ht] at h
    have hwake : c.wake task .begin = c.beginRound task { t with seen := c.stop.version } := by
      simp [wake, ht, hspawned]
    rw [hwake]
    refine ⟨stageOf_beginRound ht _, ?_⟩
    unfold beginRound
    split <;> rfl

/-! ### One kind of wake after the other -/

section Kinds

variable {c : Client κ} {task : Nat} {t : Task}

/-- Only a task that has not run yet begins. -/
theorem woken_begin (ht : c.tasks[task]? = some t) : c.Woken task (c.wake task .begin) .begin := by
  have hstage := stageOf_eq ht
  obtain ⟨stage, seen⟩ := t
  cases stage with
  | spawned =>
    obtain ⟨hstages, hmanager⟩ := wake_begin hstage
    cases hraised : c.stop.raised with
    | true =>
      rw [hraised, if_pos rfl] at hstages hmanager
      exact .declines hstage hraised hstages hmanager
    | false =>
      rw [hraised, if_neg Bool.false_ne_true] at hstages hmanager
      exact .begins hstage hraised hstages hmanager
  | _ => exact .rests rfl (by simp [wake, ht])

/-- Only a task that connects gets a link. -/
theorem woken_connected (ht : c.tasks[task]? = some t) (s : Sink) :
    c.Woken task (c.wake task (.connected s)) (.connected s) := by
  have hstage := stageOf_eq ht
  obtain ⟨stage, seen⟩ := t
  cases stage with
  | connecting =>
    have hwake : c.wake task (.connected s) =
        { c.setTask task ⟨.reading s.link, seen⟩ with manager := c.manager.ready s } := by
      simp [wake, ht]
    rw [hwake]
    exact .links s hstage (stageOf_setTask ht _) rfl
  | _ => exact .rests (by simp [readied, hstage]) (by simp [wake, ht])

/-- A task leaves for a stage in which it reads no link, and the manager has no new link. -/
theorem woken_leave (ht : c.tasks[task]? = some t) (hworking : t.stage.isWorking = true)
    {w : Wake} (hreadied : c.readied task w = []) {t' : Task}
    (hreading : ∀ link, t'.stage ≠ .reading link) {m : Manager κ}
    (hconnections : m.connections = c.manager.connections) :
    c.Woken task { c.setTask task t' with manager := m } w := by
  have hleft : (c.stageOf task).isWorking = true := by rwa [stageOf_eq ht]
  exact .leaves t'.stage hreadied hleft (stageOf_setTask ht t') hreading hconnections

/-- Only an attempt to connect can fail. The task sleeps after that. -/
theorem woken_failed (ht : c.tasks[task]? = some t) :
    c.Woken task (c.wake task .failed) .failed := by
  obtain ⟨stage, seen⟩ := t
  cases stage with
  | connecting =>
    have hwake : c.wake task .failed =
        { c.setTask task ⟨.sleeping, seen⟩ with manager := c.manager.dropped } := by
      simp [wake, ht]
    rw [hwake]
    exact woken_leave ht rfl rfl (by simp) rfl
  | _ => exact .rests rfl (by simp [wake, ht])

/-- Only a link that is read can end. The task sleeps after that. -/
theorem woken_ended (ht : c.tasks[task]? = some t) :
    c.Woken task (c.wake task .ended) .ended := by
  obtain ⟨stage, seen⟩ := t
  cases stage with
  | reading link =>
    have hwake : c.wake task .ended =
        { c.setTask task ⟨.sleeping, seen⟩ with manager := c.manager.dropped } := by
      simp [wake, ht]
    rw [hwake]
    exact woken_leave ht rfl rfl (by simp) rfl
  | _ => exact .rests rfl (by simp [wake, ht])

/-- Only a task that sleeps starts over. -/
theorem woken_due (ht : c.tasks[task]? = some t) : c.Woken task (c.wake task .due) .due := by
  obtain ⟨stage, seen⟩ := t
  cases stage with
  | sleeping =>
    have hwake : c.wake task .due = c.beginRound task ⟨.sleeping, seen⟩ := by simp [wake, ht]
    rw [hwake]
    unfold beginRound
    split
    · exact woken_leave ht rfl rfl (by simp) rfl
    · exact woken_leave ht rfl rfl (by simp) rfl
  | _ => exact .rests rfl (by simp [wake, ht])

/-- A task that works ends because of the flag, unless it has seen its last change. -/
theorem woken_halt (ht : c.tasks[task]? = some t) (hworking : t.stage.isWorking = true) :
    c.Woken task (c.halt task t) .stopSeen := by
  unfold halt
  split
  · exact woken_leave ht hworking rfl (by simp) rfl
  · exact .rests rfl rfl

/-- The flag reaches a task that works. -/
theorem woken_stopSeen (ht : c.tasks[task]? = some t) :
    c.Woken task (c.wake task .stopSeen) .stopSeen := by
  obtain ⟨stage, seen⟩ := t
  cases stage with
  | spawned | finished => exact .rests rfl (by simp [wake, ht])
  | connecting | reading link | sleeping =>
    have hhalt := woken_halt ht rfl
    simpa [wake, ht] using hhalt

/-- A callback can bring down a task that reads. -/
theorem woken_broken (ht : c.tasks[task]? = some t) :
    c.Woken task (c.wake task .broken) .broken := by
  obtain ⟨stage, seen⟩ := t
  cases stage with
  | reading link =>
    have hwake : c.wake task .broken = c.setTask task ⟨.finished, seen⟩ := by simp [wake, ht]
    rw [hwake]
    exact woken_leave ht rfl rfl (by simp) rfl
  | _ => exact .rests rfl (by simp [wake, ht])

end Kinds

/-- Nothing else can happen when a task wakes. -/
theorem woken_wake (c : Client κ) (task : Nat) (w : Wake) : c.Woken task (c.wake task w) w := by
  cases ht : c.tasks[task]? with
  | none =>
    have hreadied : c.readied task w = [] := by cases w <;> simp [readied, stageOf, ht]
    exact .rests hreadied (by simp [wake, ht])
  | some t =>
    cases w with
    | begin => exact woken_begin ht
    | connected s => exact woken_connected ht s
    | failed => exact woken_failed ht
    | ended => exact woken_ended ht
    | due => exact woken_due ht
    | stopSeen => exact woken_stopSeen ht
    | broken => exact woken_broken ht

/-! ### What holds of every wake -/

/-- A task that wakes leaves the others as they are. -/
theorem Woken.stageOf_ne {c c' : Client κ} {task : Nat} {w : Wake} (h : c.Woken task c' w)
    {j : Nat} (hj : j ≠ task) : c'.stageOf j = c.stageOf j := by
  cases h with
  | rests hreadied hc => rw [hc]
  | begins hstage hraised hstages hmanager
  | declines hstage hraised hstages hmanager
  | links s hstage hstages hmanager
  | leaves stage hreadied hstage hstages hreading hconnections =>
    rw [hstages, Function.update_of_ne hj]

/-- A task that has ended does not come back. -/
theorem Woken.stageOf_of_finished {c c' : Client κ} {task : Nat} {w : Wake} (h : c.Woken task c' w)
    {j : Nat} (hj : c.stageOf j = .finished) : c'.stageOf j = .finished := by
  by_cases hjtask : j = task
  · subst hjtask
    cases h with
    | rests hreadied hc => rw [hc, hj]
    | begins hstage hraised hstages hmanager
    | declines hstage hraised hstages hmanager
    | links s hstage hstages hmanager => cases hj.symm.trans hstage
    | leaves stage hreadied hstage hstages hreading hconnections =>
      rw [hj] at hstage
      cases hstage
  · rw [h.stageOf_ne hjtask, hj]

theorem slot_wake (c : Client κ) (task : Nat) (w : Wake) : (c.wake task w).slot = c.slot := by
  have hround (t : Task) : (c.beginRound task t).slot = c.slot := by
    unfold beginRound
    split <;> rfl
  have hhalt (t : Task) : (c.halt task t).slot = c.slot := by
    unfold halt
    split <;> rfl
  unfold wake
  split
  · rfl
  · split <;> first | rfl | exact hround _ | exact hhalt _

end Client

end BookFeed.Connection
