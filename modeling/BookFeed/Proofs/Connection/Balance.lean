import BookFeed.Proofs.Connection.Cuts

set_option autoImplicit false

/-!
# Counters of requests

Two counters tell what becomes of requests: how many texts links have taken, and how many
requests had to wait. A request that has waited and is handed over later counts in both. Numbers
are given to all requests that are submitted and to replayed subscriptions; a number is missing
from what links have taken and what waits only if a link has refused the replay that it was
given to. So the numbers from one on can be told apart by what has become of them, and counting
them gives an equation for the counters.

## Main definitions

* `BookFeed.Connection.Manager.flushedBy`, `BookFeed.Connection.Manager.flushed` — how much of
  the queue links have taken.
* `BookFeed.Connection.Manager.breaksReplay`, `BookFeed.Connection.Manager.brokenReplays` —
  how many links have broken off during the replay.
* `BookFeed.Connection.Manager.lostBy`, `BookFeed.Connection.Manager.lost` — the numbers that
  were given to refused subscriptions.
* `BookFeed.Connection.Manager.Accounted` — what has become of the numbers.
* `BookFeed.Connection.Manager.Balanced` — the equations of both counters, and the numbers.

## Main results

* `BookFeed.Connection.Manager.Accounted.extend` — new entries and lost numbers use up the
  next numbers.
* `BookFeed.Connection.Manager.Balanced.advance` — a transition keeps the balance.
* `BookFeed.Connection.Client.counters_balance` — it holds after every run.
-/

namespace BookFeed.Connection

open Feed

namespace Manager

variable {κ : Type}

/-! ### What links have taken of the queue, and where they have broken off -/

/-- How many requests of the queue are handed over in a transition. -/
def flushedBy (m : Manager κ) : Transition → Nat
  | .turn (.ready none) => m.outbox.pending.length
  | .turn (.ready (some n)) => min n m.outbox.pending.length
  | _ => 0

/-- How many requests of the queue are handed over in a run. -/
def flushed : Manager κ → List Transition → Nat
  | _, [] => 0
  | m, t :: ts => m.flushedBy t + flushed (m.advance t) ts

/-- Whether a new link takes the queue and refuses a replayed subscription. -/
def breaksReplay (m : Manager κ) : Transition → Bool
  | .turn (.ready (some n)) => m.outbox.pending.length ≤ n ∧ n < m.offer.length
  | _ => false

/-- How many new links break off during the replay in a run. -/
def brokenReplays : Manager κ → List Transition → Nat
  | _, [] => 0
  | m, t :: ts => (m.breaksReplay t).toNat + brokenReplays (m.advance t) ts

/-- The number that is lost in a transition: that of the first request which a new link refuses
after it has taken the queue. -/
def lostBy (m : Manager κ) : Transition → List Nat
  | .turn (.ready (some n)) =>
    if m.outbox.pending.length ≤ n then numbers ((m.offer.drop n).take 1) else []
  | _ => []

/-- The numbers that are lost in a run. -/
def lost : Manager κ → List Transition → List Nat
  | _, [] => []
  | m, t :: ts => m.lostBy t ++ lost (m.advance t) ts

section Offer

variable {m : Manager κ} {n : Nat}

/-- A link that refuses a request of the queue loses no number. -/
theorem lostBy_of_cut_queue (h : n < m.outbox.pending.length) :
    m.lostBy (.turn (.ready (some n))) = [] := by
  rw [lostBy, if_neg (Nat.not_le_of_lt h)]

/-- A link that takes the whole offer loses no number. -/
theorem lostBy_of_fits (h : m.offer.length ≤ n) : m.lostBy (.turn (.ready (some n))) = [] := by
  rw [lostBy, List.drop_of_length_le h]
  split <;> rfl

/-- What a link has taken of the replay and what it has refused first have the next numbers. -/
theorem numbers_of_cut_replay (hqueue : m.outbox.pending.length ≤ n) (h : n < m.offer.length) :
    numbers (m.outbox.replay.take (n - m.outbox.pending.length)) ++
        m.lostBy (.turn (.ready (some n))) =
      List.range' m.outbox.nextId (n - m.outbox.pending.length + 1) := by
  rw [offer, List.length_append] at h
  have hreplay : n - m.outbox.pending.length + 1 ≤ m.outbox.replay.length := by omega
  rw [lostBy, if_pos hqueue, offer, List.drop_append, List.drop_of_length_le hqueue,
    List.nil_append, ← numbers_append, ← List.take_add, numbers_take_replay m.outbox hreplay]

/-- A link that breaks off during the replay loses one number. -/
theorem length_lostBy_of_cut_replay (hqueue : m.outbox.pending.length ≤ n)
    (h : n < m.offer.length) : (m.lostBy (.turn (.ready (some n)))).length = 1 := by
  have hlength := congrArg List.length (numbers_of_cut_replay hqueue h)
  rw [offer, List.length_append] at h
  rw [List.length_append, numbers_take_replay m.outbox (by omega), List.length_range',
    List.length_range'] at hlength
  omega

/-- A transition loses a number iff it breaks off during the replay, and then one. -/
theorem length_lostBy (m : Manager κ) (t : Transition) :
    (m.lostBy t).length = (m.breaksReplay t).toNat := by
  cases t with
  | submit r => rfl
  | repeatWish stream => rfl
  | turn t =>
    cases t with
    | connecting | refusing link | closed | dropped => rfl
    | ready room =>
      cases room with
      | none => rfl
      | some n =>
        rcases Nat.lt_or_ge n m.outbox.pending.length with hqueue | hqueue
        · simp [lostBy_of_cut_queue hqueue, breaksReplay, Nat.not_le_of_lt hqueue]
        · rcases Nat.lt_or_ge n m.offer.length with hreplay | hall
          · simp [length_lostBy_of_cut_replay hqueue hreplay, breaksReplay, hqueue, hreplay]
          · simp [lostBy_of_fits hall, breaksReplay, Nat.not_lt_of_le hall]

/-- As many numbers are lost as links break off during the replay. -/
theorem length_lost (m : Manager κ) (ts : List Transition) :
    (m.lost ts).length = m.brokenReplays ts := by
  induction ts generalizing m with
  | nil => rfl
  | cons t ts ih => rw [lost, brokenReplays, List.length_append, length_lostBy, ih]

end Offer

/-! ### What becomes of the numbers -/

/-- Each entry of the ledger has a number, and these numbers and the `lost` ones are all that
have been given so far, each once. -/
structure Accounted (m : Manager κ) (lost : List Nat) : Prop where
  total : ∀ r ∈ m.ledger, r.id.isSome
  pos : 1 ≤ m.outbox.nextId
  given : (numbers m.ledger ++ lost).Perm (List.range' 1 (m.outbox.nextId - 1))

namespace Accounted

variable {m m' : Manager κ} {lost burnt : List Nat}

theorem new (config : Config) : Accounted ({ config := config } : Manager κ) [] where
  total _ h := by cases h
  pos := Nat.le_refl 1
  given := .nil

/-- New entries of the ledger and numbers that are lost use up the next numbers. -/
theorem extend (h : m.Accounted lost) {rs : List Request} {k : Nat}
    (hledger : m'.ledger.Perm (m.ledger ++ rs)) (hnext : m'.outbox.nextId = m.outbox.nextId + k)
    (htotal : ∀ r ∈ rs, r.id.isSome)
    (hgiven : numbers rs ++ burnt = List.range' m.outbox.nextId k) :
    m'.Accounted (lost ++ burnt) := by
  have hpos := h.pos
  refine ⟨fun r hr => ?_, by omega, ?_⟩
  · rcases List.mem_append.1 (hledger.mem_iff.1 hr) with hr | hr
    · exact h.total r hr
    · exact htotal r hr
  · have hnumbers : (numbers m'.ledger).Perm (numbers m.ledger ++ numbers rs) := by
      rw [← numbers_append]
      exact hledger.filterMap _
    have hrange : List.range' 1 (m'.outbox.nextId - 1) =
        List.range' 1 (m.outbox.nextId - 1) ++ (numbers rs ++ burnt) := by
      have hstart : 1 + (m.outbox.nextId - 1) = m.outbox.nextId := by omega
      have hend : m'.outbox.nextId - 1 = m.outbox.nextId - 1 + k := by omega
      rw [hgiven, hend, ← List.range'_append_1, hstart]
    -- the numbers that were lost before change places with those of the new entries
    have hswap : (numbers m'.ledger ++ (lost ++ burnt)).Perm
        ((numbers m.ledger ++ lost) ++ (numbers rs ++ burnt)) := by
      refine (hnumbers.append_right _).trans ?_
      rw [List.append_assoc, List.append_assoc]
      exact (List.perm_append_comm_assoc _ _ _).append_left _
    rw [hrange]
    exact hswap.trans (h.given.append_right _)

/-- New entries that are numbered one after the other use up the next numbers, and none is lost. -/
theorem extend_range (h : m.Accounted lost) {rs : List Request}
    (hledger : m'.ledger.Perm (m.ledger ++ rs))
    (hnext : m'.outbox.nextId = m.outbox.nextId + rs.length)
    (hids : rs.map (·.id) = (List.range' m.outbox.nextId rs.length).map some) :
    m'.Accounted lost := by
  have hgiven : numbers rs ++ [] = List.range' m.outbox.nextId rs.length := by
    rw [List.append_nil, numbers_of_range hids]
  rw [← List.append_nil lost]
  exact h.extend hledger hnext (Numbered.of_range hids).total hgiven

/-- There are as many numbers as entries of the ledger and lost ones. -/
theorem nextId_eq (h : m.Accounted lost) :
    m.outbox.nextId - 1 = m.written.length + m.outbox.pending.length + lost.length := by
  have hnumbers : (numbers m.ledger).length = m.ledger.length := by
    rw [numbers, List.length_filterMap_eq_countP, List.countP_eq_length]
    exact h.total
  have hledger : m.ledger.length = m.written.length + m.outbox.pending.length := by
    simp [ledger, texts]
  have hlength := h.given.length_eq
  rw [List.length_append, List.length_range'] at hlength
  omega

end Accounted

/-! ### The balance -/

/-- What the counters say about links that have taken `flushed` requests out of the queue, and
what has become of the numbers, of which the `lost` ones were given to refused subscriptions. -/
structure Balanced (m : Manager κ) (flushed : Nat) (lost : List Nat) : Prop where
  sent : m.counters.requestsSent = m.written.length
  buffered : m.counters.requestsBuffered = m.outbox.pending.length + flushed
  accounted : m.Accounted lost

namespace Balanced

variable {m : Manager κ} {flushed : Nat} {lost : List Nat}

theorem new (config : Config) : Balanced ({ config := config } : Manager κ) 0 [] where
  sent := rfl
  buffered := rfl
  accounted := .new config

theorem submit (h : m.Balanced flushed lost) (r : Request) :
    (m.submit r).1.Balanced flushed lost := by
  obtain ⟨hsent, hbuffered, haccounted⟩ := h
  have hids : [m.outbox.stamp r].map (·.id) = (List.range' m.outbox.nextId 1).map some := rfl
  -- the number that is given shows up as a text sent or in the queue
  cases hopen : m.outbox.openSink with
  | some s =>
    rw [submit_of_openSink hopen]
    refine ⟨?_, ?_, ?_⟩
    · simp only [record, List.length_append, List.length_map, List.length_singleton]
      omega
    · exact hbuffered
    · refine haccounted.extend_range ?_ rfl hids
      simp only [ledger, texts, record, List.map_append, List.map_map, List.append_assoc]
      exact List.perm_append_comm.append_left _
  | none =>
    rw [submit_of_waiting hopen]
    refine ⟨hsent, ?_, ?_⟩
    · simp only [List.length_append, List.length_singleton]
      omega
    · refine haccounted.extend_range ?_ rfl hids
      simp [ledger, texts]

/-- A link that takes the whole offer empties the queue; the replay is numbered and sent. -/
theorem ready_of_fits (h : m.Balanced flushed lost) {s : Sink} (hfits : Fits s.room m.offer) :
    (m.ready s).Balanced (flushed + m.outbox.pending.length) lost := by
  obtain ⟨hsent, hbuffered, haccounted⟩ := h
  have hids := ids_take_replay m.outbox m.outbox.replay.length
  rw [List.take_length] at hids
  simp only [ready, Outbox.ready_of_fits hfits]
  refine ⟨?_, ?_, ?_⟩
  · simp only [record, List.length_append, List.length_map]
    omega
  · simp only [record, List.length_nil]
    omega
  · refine haccounted.extend_range ?_ rfl hids
    simp [ledger, texts, record, Function.comp_def]

/-- What a link takes of the queue was waiting and is sent. -/
theorem ready_of_cut_queue (h : m.Balanced flushed lost) {s : Sink} {n : Nat}
    (hroom : s.room = some n) (hn : n < m.outbox.pending.length) :
    (m.ready s).Balanced (flushed + n) lost := by
  obtain ⟨hsent, hbuffered, haccounted⟩ := h
  have hids : ([] : List Request).map (·.id) = (List.range' m.outbox.nextId 0).map some := rfl
  simp only [ready, Outbox.ready_of_cut_queue hroom hn]
  refine ⟨?_, ?_, ?_⟩
  · simp only [record, List.length_append, List.length_map, List.length_take]
    omega
  · simp only [record, List.length_drop]
    omega
  · refine haccounted.extend_range ?_ rfl hids
    simp [ledger, texts, record, Function.comp_def]

/-- A link that breaks off during the replay has cost one number more than it has taken. -/
theorem ready_of_cut_replay (h : m.Balanced flushed lost) {s : Sink} {n : Nat}
    (hroom : s.room = some n) (hqueue : m.outbox.pending.length ≤ n) (hn : n < m.offer.length) :
    (m.ready s).Balanced (flushed + m.outbox.pending.length)
      (lost ++ m.lostBy (.turn (.ready (some n)))) := by
  obtain ⟨hsent, hbuffered, haccounted⟩ := h
  have hgiven := numbers_of_cut_replay hqueue hn
  rw [offer, List.length_append] at hn
  have htaken := Numbered.take_replay m.outbox
    (show n - m.outbox.pending.length ≤ m.outbox.replay.length by omega)
  simp only [ready, Outbox.ready_of_cut_replay hroom hqueue hn]
  refine ⟨?_, ?_, haccounted.extend ?_ rfl htaken.total hgiven⟩
  · simp only [record, List.length_append, List.length_map, List.length_take]
    omega
  · simp only [record, List.length_nil]
    omega
  · simp [ledger, texts, record, Function.comp_def]

theorem turn_ready (h : m.Balanced flushed lost) (room : Option Nat) :
    (m.turn (.ready room)).Balanced (flushed + m.flushedBy (.turn (.ready room)))
      (lost ++ m.lostBy (.turn (.ready room))) := by
  cases room with
  | none =>
    show (m.ready ⟨m.connections + 1, none⟩).Balanced _ (lost ++ [])
    rw [List.append_nil]
    exact h.ready_of_fits (s := ⟨m.connections + 1, none⟩) (fits_none _)
  | some n =>
    show (m.ready ⟨m.connections + 1, some n⟩).Balanced
        (flushed + min n m.outbox.pending.length) _
    -- it breaks off in the queue, in the replay, or not at all
    rcases Nat.lt_or_ge n m.outbox.pending.length with hqueue | hqueue
    · rw [Nat.min_eq_left (Nat.le_of_lt hqueue), lostBy_of_cut_queue hqueue, List.append_nil]
      exact h.ready_of_cut_queue (s := ⟨m.connections + 1, some n⟩) rfl hqueue
    · rw [Nat.min_eq_right hqueue]
      rcases Nat.lt_or_ge n m.offer.length with hreplay | hall
      · exact h.ready_of_cut_replay (s := ⟨m.connections + 1, some n⟩) rfl hqueue hreplay
      · rw [lostBy_of_fits hall, List.append_nil]
        exact h.ready_of_fits (s := ⟨m.connections + 1, some n⟩) (fits_some.2 hall)

/-- A transition keeps the balance, with what it takes out of the queue and the number that it
may lose. -/
theorem advance (h : m.Balanced flushed lost) (t : Transition) :
    (m.advance t).Balanced (flushed + m.flushedBy t) (lost ++ m.lostBy t) := by
  cases t with
  | submit r =>
    show (m.submit r).1.Balanced flushed (lost ++ [])
    rw [List.append_nil]
    exact h.submit r
  | repeatWish stream =>
    show (m.repeatSubscription stream).Balanced flushed (lost ++ [])
    rw [List.append_nil, repeatSubscription]
    split
    · exact h.submit _
    · exact h
  | turn t =>
    cases t with
    | ready room => exact h.turn_ready room
    | connecting | refusing link | closed | dropped =>
      show Balanced _ flushed (lost ++ [])
      rw [List.append_nil]
      exact ⟨h.sent, h.buffered, ⟨h.accounted.total, h.accounted.pos, h.accounted.given⟩⟩

theorem run (h : m.Balanced flushed lost) (ts : List Transition) :
    (m.run ts).Balanced (flushed + m.flushed ts) (lost ++ m.lost ts) := by
  induction ts generalizing m flushed lost with
  | nil =>
    rw [Manager.lost, List.append_nil]
    exact h
  | cons t ts ih =>
    rw [Manager.flushed, Manager.lost, ← Nat.add_assoc, ← List.append_assoc]
    exact ih (h.advance t)

end Balanced

end Manager

namespace Client

variable {κ : Type}

/-- **The counters of requests balance.** Whatever callers, timers, tasks and links have done:
the number of requests sent is the number of texts that links have taken; the number of requests
that had to wait is the number of those that wait now and those that were handed over from the
queue; and the numbers given so far, from one on, are as many as the requests that were sent,
those that wait now, and the links that have broken off during the replay. Indeed each text that
a link has taken and each request that waits has a number, each link that has broken off during
the replay has lost one, and these are the numbers from one on, each once.

**Proof sketch.** All this holds at the start, and each transition keeps it. A request that is
submitted takes a number and is sent or waits; a new link moves requests from the queue to those
sent, and each replayed subscription that it takes has its number; the one that it refuses is
the one number that is lost. Counting the numbers gives the third equation. -/
theorem counters_balance (config : Config) (es : List ClientEvent) :
    let start : Client κ := idle config
    let m := (start.run es).manager
    let ts := start.transitions es
    m.counters.requestsSent = m.written.length ∧
      m.counters.requestsBuffered = m.outbox.pending.length + start.manager.flushed ts ∧
      m.outbox.nextId - 1 = m.counters.requestsSent + m.outbox.pending.length +
        start.manager.brokenReplays ts ∧
      (∀ r ∈ m.texts ++ m.outbox.pending, r.id.isSome) ∧
      (start.manager.lost ts).length = start.manager.brokenReplays ts ∧
      (numbers m.texts ++ numbers m.outbox.pending ++ start.manager.lost ts).Perm
        (List.range' 1 (m.outbox.nextId - 1)) := by
  intro start m ts
  have h : m.Balanced (start.manager.flushed ts) (start.manager.lost ts) := by
    have hrun := (Manager.Balanced.new config : Manager.Balanced start.manager 0 []).run ts
    rw [Nat.zero_add, List.nil_append] at hrun
    show (start.run es).manager.Balanced _ _
    rw [start.manager_run]
    exact hrun
  have hlost := start.manager.length_lost ts
  refine ⟨h.sent, h.buffered, ?_, h.accounted.total, hlost, ?_⟩
  · rw [h.accounted.nextId_eq, h.sent, hlost]
  · rw [← numbers_append]
    exact h.accounted.given

-- one link breaks off in the queue, the next one in the replay, and the third one takes all and
-- then stops before a wish is repeated
example :
    let start : Client Unit := idle {}
    let es : List ClientEvent :=
      [.manager (.submit (.subscribe "a")), .manager (.submit (.subscribe "b")), .start,
        .wake 0 .begin, .wake 0 (.connected ⟨0, some 1⟩), .wake 0 .ended, .wake 0 .due,
        .wake 0 (.connected ⟨0, some 1⟩), .wake 0 .ended, .wake 0 .due,
        .wake 0 (.connected ⟨0, none⟩), .manager (.turn (.refusing 3)),
        .manager (.repeatWish "a")]
    let m := (start.run es).manager
    m.counters.requestsSent = 4 ∧ m.counters.requestsBuffered = 3 ∧ m.outbox.nextId - 1 = 6 ∧
      m.outbox.pending.length = 1 ∧ start.manager.flushed (start.transitions es) = 2 ∧
      start.manager.brokenReplays (start.transitions es) = 1 ∧
      start.manager.lost (start.transitions es) = [3] := by
  decide +kernel

end Client

end BookFeed.Connection
