import Mathlib.Data.List.Nodup
import BookFeed.Proofs.Connection.Run

set_option autoImplicit false

/-!
# The ledger of requests

Put what links have taken and what waits behind each other: that is the ledger of a manager.
Every transition only appends to it, because nothing waits while a link is open that takes
texts. The numbers of the new entries lie behind all earlier numbers. So the ledger ascends, and
each number stands in it once.

## Main definitions

* `BookFeed.Connection.numbers` — the numbers of requests.
* `BookFeed.Connection.Manager.texts`, `BookFeed.Connection.Manager.ledger` — what links have
  taken, and what waits behind it.
* `BookFeed.Connection.Manager.Linked` — what holds of links and the queue at all times.
* `BookFeed.Connection.Numbered` — requests whose numbers ascend in a range.
* `BookFeed.Connection.Manager.Extends` — new numbers have been appended to the ledger.

## Main results

* `BookFeed.Connection.Manager.Linked.run` — a run keeps what holds of links.
* `BookFeed.Connection.Manager.extends_advance` — a transition appends new numbers to the
  ledger.
* `BookFeed.Connection.Client.handed_over_once` — each request is handed over once and in
  order.
-/

namespace BookFeed.Connection

open Feed

/-! ### Links -/

namespace Outbox

/-- A request can be handed to a link if there is one that takes texts. -/
theorem openSink_eq_some_iff {o : Outbox} {s : Sink} :
    o.openSink = some s ↔ o.phase = .opened ∧ o.sink = some s ∧ s.accepts = true := by
  simp [openSink, Option.filter_eq_some_iff]

/-- The link that a request can be handed to is the link of the outbox. -/
theorem eq_of_openSink {o : Outbox} {s s' : Sink} (h : o.openSink = some s)
    (hsink : o.sink = some s') : s = s' := by
  rw [(openSink_eq_some_iff.1 h).2.1] at hsink
  exact Option.some.inj hsink

/-- While there is no link, no request can be handed to one. -/
theorem openSink_eq_none_of_phase {o : Outbox} (h : o.phase ≠ .opened) : o.openSink = none := by
  simp [openSink, h]

/-- A link that still takes texts after some link has stopped is not that one. -/
theorem openSink_of_stop {o : Outbox} {link : Nat} {s : Sink}
    (h : (o.stop link).openSink = some s) : o.openSink = some s := by
  obtain ⟨hphase, hsink, haccepts⟩ := openSink_eq_some_iff.1 h
  simp only [stop, Option.map_eq_some_iff] at hsink
  obtain ⟨s₀, hs₀, hs⟩ := hsink
  split at hs
  · rw [← hs] at haccepts
    simp [Sink.accepts, Sink.stopped] at haccepts
  · rw [hs] at hs₀
    exact openSink_eq_some_iff.2 ⟨hphase, hs₀, haccepts⟩

end Outbox

namespace Manager

variable {κ : Type}

/-- What holds of links and the queue at all times. -/
structure Linked (m : Manager κ) : Prop where
  /-- Nothing waits while a link is open that takes texts. -/
  idle : ∀ s, m.outbox.openSink = some s → m.outbox.pending = []
  /-- The link is one of those that have become ready. -/
  held : ∀ s, m.outbox.sink = some s → 1 ≤ s.link ∧ s.link ≤ m.connections
  /-- So is every link that has taken a text. -/
  known : ∀ w ∈ m.written, 1 ≤ w.link ∧ w.link ≤ m.connections

namespace Linked

/-- At the start there is no link. -/
theorem new (config : Config) : Linked ({ config := config } : Manager κ) where
  idle _ _ := rfl
  held _ h := by cases h
  known _ h := by cases h

/-- Without an open link nothing has to be shown of the queue. -/
theorem of_phase {m m' : Manager κ} (h : m.Linked) (hphase : m'.outbox.phase ≠ .opened)
    (hsink : ∀ s, m'.outbox.sink = some s → m.outbox.sink = some s)
    (hwritten : m'.written = m.written) (hconnections : m'.connections = m.connections) :
    m'.Linked where
  idle s hs := by
    rw [Outbox.openSink_eq_none_of_phase hphase] at hs
    cases hs
  held s hs := hconnections ▸ h.held s (hsink s hs)
  known := by
    rw [hwritten, hconnections]
    exact h.known

/-- Submitting keeps what holds of links. -/
theorem submit {m : Manager κ} (h : m.Linked) (r : Request) : (m.submit r).1.Linked := by
  have hconnections : (m.submit r).1.connections = m.connections := by
    simp only [Manager.submit]
    split <;> rfl
  rcases m.submit_cases r with ⟨s, s', hs, hlink, hout, hwritten⟩ | ⟨hs, hout, hwritten⟩
  · have hheld := h.held s (Outbox.openSink_eq_some_iff.1 hs).2.1
    refine ⟨fun _ _ => ?_, fun s₁ h₁ => ?_, fun w hw => ?_⟩
    · rw [hout]
      exact h.idle s hs
    · rw [hout] at h₁
      cases h₁
      rw [hlink, hconnections]
      exact hheld
    · rw [hwritten, List.mem_append] at hw
      rw [hconnections]
      rcases hw with hw | hw
      · exact h.known w hw
      · rw [Written.link_of_mem_batch hw]
        exact hheld
  · refine ⟨fun s₁ h₁ => ?_, fun s₁ h₁ => ?_, ?_⟩
    · rw [hout] at h₁
      have hnone : m.outbox.openSink = some s₁ := h₁
      rw [hs] at hnone
      cases hnone
    · rw [hout] at h₁
      rw [hconnections]
      exact h.held s₁ h₁
    · rw [hwritten, hconnections]
      exact h.known

/-- A new link keeps what holds of links. -/
theorem ready {m : Manager κ} (h : m.Linked) (room : Option Nat) :
    (m.ready ⟨m.connections + 1, room⟩).Linked := by
  have hsink : ∀ s, m.outbox.sink = some s → 1 ≤ s.link ∧ s.link ≤ m.connections + 1 :=
    fun s hs => ⟨(h.held s hs).1, Nat.le_succ_of_le (h.held s hs).2⟩
  have hwritten : ∀ rs : List Request,
      ∀ w ∈ m.written ++ Written.batch (m.connections + 1) rs,
        1 ≤ w.link ∧ w.link ≤ m.connections + 1 := by
    intro rs w hw
    rcases List.mem_append.1 hw with hw | hw
    · exact ⟨(h.known w hw).1, Nat.le_succ_of_le (h.known w hw).2⟩
    · rw [Written.link_of_mem_batch hw]
      exact ⟨Nat.le_add_left _ _, Nat.le_refl _⟩
  rcases m.ready_cases ⟨m.connections + 1, room⟩ with
    ⟨taken, left, hsplit, hout, hw⟩ | ⟨n, -, hout, hw⟩ | ⟨s', hlink, hout, hw⟩
  · refine ⟨fun s hs => ?_, fun s hs => ?_, fun w hmem => hwritten _ w (hw ▸ hmem)⟩
    · rw [hout] at hs ⊢
      have hnone := h.idle s hs
      rw [← hsplit] at hnone
      exact (List.append_eq_nil_iff.1 hnone).2
    · rw [hout] at hs
      exact hsink s hs
  · refine ⟨fun s _ => ?_, fun s hs => ?_, fun w hmem => hwritten _ w (hw ▸ hmem)⟩
    · rw [hout]
    · rw [hout] at hs
      exact hsink s hs
  · refine ⟨fun s _ => ?_, fun s hs => ?_, fun w hmem => hwritten _ w (hw ▸ hmem)⟩
    · rw [hout]
    · rw [hout] at hs
      cases hs
      rw [hlink]
      exact ⟨Nat.le_add_left _ _, Nat.le_refl _⟩

/-- A link that stops keeps what holds of links. -/
theorem stop {m : Manager κ} (h : m.Linked) (link : Nat) : (m.stop link).Linked where
  idle s hs := h.idle s (Outbox.openSink_of_stop hs)
  held s hs := by
    simp only [Manager.stop, Outbox.stop, Option.map_eq_some_iff] at hs
    obtain ⟨s₀, hs₀, rfl⟩ := hs
    have hheld := h.held s₀ hs₀
    split <;> exact hheld
  known := h.known

/-- A turn of the link keeps what holds of links. -/
theorem turn {m : Manager κ} (h : m.Linked) (t : Turn) : (m.turn t).Linked := by
  cases t with
  | ready room => exact h.ready room
  | refusing link => exact h.stop link
  | connecting =>
    refine h.of_phase ?_ (fun _ hs => hs) rfl rfl
    simp [Manager.turn, Manager.connecting, Outbox.connecting]
  | closed =>
    refine h.of_phase ?_ (fun _ hs => by cases hs) rfl rfl
    simp [Manager.turn, Manager.closed, Outbox.closed]
  | dropped =>
    refine h.of_phase ?_ (fun _ hs => by cases hs) rfl rfl
    simp [Manager.turn, Manager.dropped, Manager.closed, Outbox.closed]

/-- A transition keeps what holds of links. -/
theorem advance {m : Manager κ} (h : m.Linked) (t : Transition) : (m.advance t).Linked := by
  rcases m.advance_cases t with ⟨ht, -⟩ | ⟨r, ht, -⟩ | ⟨turn, ht, -⟩ <;> rw [ht]
  · exact h
  · exact h.submit r
  · exact h.turn turn

/-- A run keeps what holds of links. -/
theorem run {m : Manager κ} (h : m.Linked) (ts : List Transition) : (m.run ts).Linked :=
  run_induction (P := Linked) (fun _ t h => h.advance t) h ts

end Linked

end Manager

/-! ### Numbers -/

/-- The numbers of requests, in order. -/
def numbers (rs : List Request) : List Nat := rs.filterMap (·.id)

/-- The numbers of two lists. -/
@[simp] theorem numbers_append (rs rs' : List Request) :
    numbers (rs ++ rs') = numbers rs ++ numbers rs' := by
  simp [numbers]

/-- The numbers of requests that are numbered one after the other. -/
theorem numbers_of_range {rs : List Request} {lo : Nat}
    (h : rs.map (·.id) = (List.range' lo rs.length).map some) :
    numbers rs = List.range' lo rs.length := by
  calc numbers rs
      = (rs.map (·.id)).filterMap id := by
        rw [List.filterMap_map]
        rfl
    _ = List.range' lo rs.length := by
        rw [h, List.filterMap_map]
        simp

/-- The start of the replay is numbered one after the other. -/
theorem ids_take_replay (o : Outbox) (n : Nat) :
    (o.replay.take n).map (·.id) =
      (List.range' o.nextId (o.replay.take n).length).map some := by
  refine List.ext_getElem (by simp) fun i h₁ h₂ => ?_
  simp [Outbox.replay, Request.withId]

/-- The numbers of the start of the replay are the next ones. -/
theorem numbers_take_replay (o : Outbox) {n : Nat} (hn : n ≤ o.replay.length) :
    numbers (o.replay.take n) = List.range' o.nextId n := by
  rw [numbers_of_range (ids_take_replay o n), List.length_take, Nat.min_eq_left hn]

/-- Requests that all have numbers, which ascend from `lo` on and stay below `hi`. -/
structure Numbered (rs : List Request) (lo hi : Nat) : Prop where
  /-- Each request has a number. -/
  total : ∀ r ∈ rs, r.id.isSome
  /-- The numbers ascend. -/
  ascending : (numbers rs).Pairwise (· < ·)
  /-- They lie in the range. -/
  between : ∀ n ∈ numbers rs, lo ≤ n ∧ n < hi

namespace Numbered

/-- No requests at all. -/
theorem nil (lo hi : Nat) : Numbered [] lo hi where
  total _ h := by cases h
  ascending := .nil
  between _ h := by cases h

/-- Requests with higher numbers come behind others. -/
theorem append {rs rs' : List Request} {lo mid hi : Nat} (h : Numbered rs lo mid)
    (h' : Numbered rs' mid hi) (hlo : lo ≤ mid) (hhi : mid ≤ hi) :
    Numbered (rs ++ rs') lo hi where
  total r hr := (List.mem_append.1 hr).elim (h.total r) (h'.total r)
  ascending := by
    rw [numbers_append, List.pairwise_append]
    exact ⟨h.ascending, h'.ascending, fun a ha b hb =>
      Nat.lt_of_lt_of_le (h.between a ha).2 (h'.between b hb).1⟩
  between n hn := by
    rw [numbers_append, List.mem_append] at hn
    rcases hn with hn | hn
    · have := h.between n hn
      omega
    · have := h'.between n hn
      omega

/-- Numbers below a bound are below a greater one. -/
theorem mono {rs : List Request} {lo hi hi' : Nat} (h : Numbered rs lo hi) (hle : hi ≤ hi') :
    Numbered rs lo hi' where
  total := h.total
  ascending := h.ascending
  between n hn := ⟨(h.between n hn).1, Nat.lt_of_lt_of_le (h.between n hn).2 hle⟩

/-- Requests that are numbered one after the other. -/
theorem of_range {rs : List Request} {lo : Nat}
    (h : rs.map (·.id) = (List.range' lo rs.length).map some) :
    Numbered rs lo (lo + rs.length) := by
  have hnumbers := numbers_of_range h
  refine ⟨fun r hr => ?_, ?_, fun n hn => ?_⟩
  · have hmem : r.id ∈ rs.map (·.id) := List.mem_map_of_mem hr
    rw [h, List.mem_map] at hmem
    obtain ⟨n, -, hn⟩ := hmem
    simp [← hn]
  · rw [hnumbers]
    exact List.pairwise_lt_range'
  · rw [hnumbers, List.mem_range'_1] at hn
    exact hn

/-- A submitted request gets the next number. -/
theorem stamp (o : Outbox) (r : Request) : Numbered [o.stamp r] o.nextId (o.nextId + 1) :=
  of_range rfl

/-- The start of the replay gets the next numbers. -/
theorem take_replay (o : Outbox) {n : Nat} (hn : n ≤ o.replay.length) :
    Numbered (o.replay.take n) o.nextId (o.nextId + n) := by
  have hlength : (o.replay.take n).length = n := by simp [hn]
  have hrange := of_range (ids_take_replay o n)
  rwa [hlength] at hrange

/-- So does all of it. -/
theorem replay (o : Outbox) : Numbered o.replay o.nextId (o.nextId + o.replay.length) := by
  simpa using take_replay o (Nat.le_refl _)

end Numbered

/-! ### The ledger -/

namespace Manager

variable {κ : Type}

/-- What links have taken, in order. -/
def texts (m : Manager κ) : List Request := m.written.map (·.request)

/-- What links have taken, and what waits behind it. -/
def ledger (m : Manager κ) : List Request := m.texts ++ m.outbox.pending

/-- The ledger of `m'` is the ledger of `m` with new entries behind it, among which are the
requests with the answered numbers. -/
structure Extends (m m' : Manager κ) (new : List Request) (answered : List Nat) : Prop where
  /-- The ledger has the new entries at its end. -/
  ledger_eq : m'.ledger = m.ledger ++ new
  /-- Their numbers have not been given before. -/
  numbered : Numbered new m.outbox.nextId m'.outbox.nextId
  /-- Numbers are not given back. -/
  le : m.outbox.nextId ≤ m'.outbox.nextId
  /-- Each answer is a new number. -/
  answer : ∀ n ∈ answered, n ∈ numbers new

namespace Extends

/-- Nothing has been appended. -/
theorem of_eq {m m' : Manager κ} (hledger : m'.ledger = m.ledger)
    (hnext : m'.outbox.nextId = m.outbox.nextId) : Extends m m' [] [] where
  ledger_eq := by rw [hledger, List.append_nil]
  numbered := .nil _ _
  le := Nat.le_of_eq hnext.symm
  answer _ h := by cases h

/-- Appending twice. -/
theorem trans {m m' m'' : Manager κ} {new new' : List Request} {answered answered' : List Nat}
    (h : Extends m m' new answered) (h' : Extends m' m'' new' answered') :
    Extends m m'' (new ++ new') (answered ++ answered') where
  ledger_eq := by rw [h'.ledger_eq, h.ledger_eq, List.append_assoc]
  numbered := h.numbered.append h'.numbered h.le h'.le
  le := Nat.le_trans h.le h'.le
  answer n hn := by
    rw [numbers_append, List.mem_append]
    exact (List.mem_append.1 hn).imp (h.answer n) (h'.answer n)

end Extends

/-- A request is answered its number. -/
theorem submit_answer (m : Manager κ) (r : Request) : (m.submit r).2 = m.outbox.nextId := by
  simp only [submit, Outbox.submit]
  split <;> rfl

/-- A submitted request becomes the last entry: if a link takes it, nothing has waited. -/
theorem extends_submit {m : Manager κ} (h : m.Linked) (r : Request) :
    Extends m (m.submit r).1 [m.outbox.stamp r] [(m.submit r).2] := by
  have hanswer : ∀ n ∈ [(m.submit r).2], n ∈ numbers [m.outbox.stamp r] := by
    simp [submit_answer, numbers, Outbox.stamp, Request.withId]
  have hnumbered := Numbered.stamp m.outbox r
  rcases m.submit_cases r with ⟨s, s', hs, -, hout, hwritten⟩ | ⟨-, hout, hwritten⟩
  · refine ⟨?_, by rwa [hout], by simp [hout], hanswer⟩
    simp [ledger, texts, hout, hwritten, h.idle s hs]
  · refine ⟨?_, by rwa [hout], by simp [hout], hanswer⟩
    simp [ledger, texts, hout, hwritten]

/-- What a new link has taken of the queue stays where it is; the replay comes behind it. -/
theorem extends_ready (m : Manager κ) (s : Sink) : ∃ new, Extends m (m.ready s) new [] := by
  rcases m.ready_cases s with
    ⟨taken, left, hsplit, hout, hwritten⟩ | ⟨n, hn, hout, hwritten⟩ |
      ⟨s', -, hout, hwritten⟩
  · refine ⟨[], .of_eq ?_ (by rw [hout])⟩
    simp [ledger, texts, hout, hwritten, ← hsplit]
  · refine ⟨m.outbox.replay.take n, ?_, ?_, ?_, by simp⟩
    · simp [ledger, texts, hout, hwritten]
    · rw [hout]
      exact (Numbered.take_replay m.outbox (Nat.le_of_lt hn)).mono (Nat.le_succ _)
    · rw [hout]
      exact Nat.le_add_right _ (n + 1)
  · refine ⟨m.outbox.replay, ?_, ?_, ?_, by simp⟩
    · simp [ledger, texts, hout, hwritten]
    · rw [hout]
      exact Numbered.replay m.outbox
    · rw [hout]
      exact Nat.le_add_right _ _

/-- A transition only appends to the ledger. -/
theorem extends_advance {m : Manager κ} (h : m.Linked) (t : Transition) :
    ∃ new, Extends m (m.advance t) new (m.answer t).toList := by
  rcases m.advance_cases t with ⟨ht, hanswer⟩ | ⟨r, ht, hanswer⟩
    | ⟨turn, ht, hanswer⟩ <;>
    rw [ht, hanswer]
  · exact ⟨[], .of_eq rfl rfl⟩
  · exact ⟨_, extends_submit h r⟩
  · cases turn with
    | ready room => exact m.extends_ready _
    | connecting | refusing link | closed | dropped => exact ⟨[], .of_eq rfl rfl⟩

/-- A run only appends to the ledger. -/
theorem extends_run {m : Manager κ} (h : m.Linked) (ts : List Transition) :
    ∃ new, Extends m (m.run ts) new (m.issued ts) := by
  induction ts generalizing m with
  | nil => exact ⟨[], .of_eq rfl rfl⟩
  | cons t ts ih =>
    obtain ⟨new, hnew⟩ := extends_advance h t
    obtain ⟨new', hnew'⟩ := ih (h.advance t)
    exact ⟨new ++ new', hnew.trans hnew'⟩

end Manager

/-! ### Clients -/

namespace Client

variable {κ : Type}

/-- **Each request is handed over once and in order.** Whatever callers, timers, tasks and links
have done so far: the numbers of all that links have taken ascend, and so do the numbers of what
waits, which are greater; each number that a caller has been answered stands once in one of the
two and not in the other; and only links that have become ready have taken anything.

**Proof sketch.** The run is a run of the manager. It appends entries with ascending numbers to
an empty ledger, among them each answered number; so the ledger ascends and contains each of
these numbers once. The ledger consists of the two lists, in this order. -/
theorem handed_over_once (config : Config) (es : List ClientEvent) :
    let start : Client κ := idle config
    let m := (start.run es).manager
    (∀ r ∈ m.texts ++ m.outbox.pending, r.id.isSome) ∧
      (numbers m.texts).Pairwise (· < ·) ∧
      (numbers m.outbox.pending).Pairwise (· < ·) ∧
      (∀ n ∈ numbers m.texts, ∀ k ∈ numbers m.outbox.pending, n < k) ∧
      (∀ n ∈ start.issued es,
        (numbers m.texts).count n + (numbers m.outbox.pending).count n = 1) ∧
      ∀ w ∈ m.written, 1 ≤ w.link ∧ w.link ≤ m.connections := by
  intro start m
  obtain ⟨ts, hrun, hissued⟩ := start.exists_transitions es
  have hlinked : start.manager.Linked := .new config
  obtain ⟨new, hnew⟩ := Manager.extends_run hlinked ts
  rw [← hrun, ← hissued] at hnew
  have hledger : m.texts ++ m.outbox.pending = new := by
    calc m.texts ++ m.outbox.pending = start.manager.ledger ++ new := hnew.ledger_eq
      _ = new := by simp [start, idle, Manager.ledger, Manager.texts]
  have hascending := hnew.numbered.ascending
  rw [← hledger, numbers_append, List.pairwise_append] at hascending
  obtain ⟨htexts, hpending, hbefore⟩ := hascending
  refine ⟨?_, htexts, hpending, hbefore, fun n hn => ?_, ?_⟩
  · rw [hledger]
    exact hnew.numbered.total
  · rw [← List.count_append, ← numbers_append, hledger]
    have hnodup : (numbers new).Nodup := hnew.numbered.ascending.imp Nat.ne_of_lt
    exact List.count_eq_one_of_mem hnodup (hnew.answer n hn)
  · exact (hrun ▸ hlinked.run ts).known

end Client

end BookFeed.Connection
