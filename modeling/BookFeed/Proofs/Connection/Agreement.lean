import Mathlib.Data.Finset.Basic
import BookFeed.Proofs.Connection.Ledger
import BookFeed.Proofs.Connection.Wanted

set_option autoImplicit false

/-!
# What the server sends

A server starts each link with no streams, adds those of a subscription and removes those of its
end. For each stream the last request that names it decides. The outbox agrees with that: what
waits and what the replay adds lead a new link to the wanted streams, however subscriptions and
their ends are mixed in the queue, and each later request changes both sides alike.

## Main definitions

* `BookFeed.Connection.obey`, `BookFeed.Connection.served` — the streams that a server sends.
* `BookFeed.Connection.lastWord` — what the last request that names a stream asks for.
* `BookFeed.Connection.Manager.takenBy` — what one link has taken.
* `BookFeed.Connection.Manager.Agreeing` — how queue, wanted streams and link fit together.

## Main results

* `BookFeed.Connection.mem_served` — the last word decides what a server sends.
* `BookFeed.Connection.Outbox.lastWord_pending_replay` — queue and replay ask for the wanted
  streams.
* `BookFeed.Connection.Client.server_agrees` — an open link serves the wanted streams.
-/

namespace BookFeed.Connection

open Feed

/-! ### Servers -/

/-- The streams that a server sends after a request. -/
def obey (streams : Finset String) (r : Request) : Finset String :=
  match r.method with
  | .subscribe => streams ∪ r.params.toFinset
  | .unsubscribe => streams \ r.params.toFinset

/-- The streams that a server sends after the requests of one link. -/
def served (rs : List Request) : Finset String := rs.foldl obey ∅

/-- A request decides about the streams that it names. -/
theorem mem_obey (streams : Finset String) (r : Request) (stream : String) :
    stream ∈ obey streams r ↔
      if stream ∈ r.params then r.method = .subscribe else stream ∈ streams := by
  unfold obey
  cases r.method <;> by_cases h : stream ∈ r.params <;> simp [h]

/-! ### The last word -/

/-- What the last request that names a stream asks for. -/
def lastWord (rs : List Request) (stream : String) : Option Method :=
  ((rs.filter (stream ∈ ·.params)).getLast?).map (·.method)

/-- Later requests have the last word, if they name the stream. -/
theorem lastWord_append (rs rs' : List Request) (stream : String) :
    lastWord (rs ++ rs') stream = (lastWord rs' stream).or (lastWord rs stream) := by
  simp [lastWord, List.getLast?_append, Option.map_or]

/-- The word of one request. -/
theorem lastWord_singleton (r : Request) (stream : String) :
    lastWord [r] stream = if stream ∈ r.params then some r.method else none := by
  by_cases h : stream ∈ r.params <;> simp [lastWord, h]

/-- A stream that a request names has a last word. -/
theorem exists_lastWord {rs : List Request} {r : Request} {stream : String} (hr : r ∈ rs)
    (h : stream ∈ r.params) : ∃ word, lastWord rs stream = some word := by
  have hmem : r ∈ rs.filter (stream ∈ ·.params) := by simp [hr, h]
  have hsome := List.getLast?_isSome.2 (List.ne_nil_of_mem hmem)
  obtain ⟨last, hlast⟩ := Option.isSome_iff_exists.1 hsome
  exact ⟨last.method, by simp [lastWord, hlast]⟩

/-- The last word is the word of a request that names the stream. -/
theorem exists_of_lastWord {rs : List Request} {stream : String} {word : Method}
    (h : lastWord rs stream = some word) :
    ∃ r ∈ rs, stream ∈ r.params ∧ r.method = word := by
  obtain ⟨r, hr, hword⟩ := Option.map_eq_some_iff.1 h
  have hmem := List.mem_filter.1 (List.mem_of_getLast? hr)
  exact ⟨r, hmem.1, by simpa using hmem.2, hword⟩

/-- A server sends a stream if the last word on it is to subscribe. -/
theorem mem_served (rs : List Request) (stream : String) :
    stream ∈ served rs ↔ lastWord rs stream = some .subscribe := by
  induction rs using List.reverseRecOn with
  | nil => simp [served, lastWord]
  | append_singleton rs r ih =>
    have hserved : served (rs ++ [r]) = obey (served rs) r := by simp [served]
    rw [hserved, mem_obey, lastWord_append, lastWord_singleton, ih]
    split <;> simp

/-! ### Queue and replay -/

namespace Outbox

/-- A covered stream has a last word. -/
theorem exists_lastWord_of_covered {rs : List Request} {stream : String}
    (h : stream ∈ covered rs) : ∃ word, lastWord rs stream = some word := by
  obtain ⟨r, hr, hparams⟩ := List.mem_flatMap.1 h
  exact exists_lastWord (List.mem_filter.1 hr).1 hparams

/-- The replay subscribes to the wanted streams that the queue does not cover. -/
theorem lastWord_replay (o : Outbox) (stream : String) :
    lastWord o.replay stream =
      if stream ∈ o.active ∧ stream ∉ covered o.pending then some .subscribe else none := by
  have hnames : ∀ r ∈ o.replay, ∃ s, s ∈ o.active ∧ s ∉ covered o.pending ∧
      r.params = [s] ∧
      r.method = .subscribe := by
    intro r hr
    obtain ⟨i, hi, rfl⟩ := List.mem_mapIdx.1 hr
    have hmem := List.mem_filter.1 (List.getElem_mem hi)
    exact ⟨_, hmem.1, by simpa using hmem.2, rfl, rfl⟩
  split
  · next h =>
    have hmem : stream ∈ o.active.filter (!(covered o.pending).contains ·) := by
      simpa using h
    obtain ⟨i, hi, hget⟩ := List.getElem_of_mem hmem
    have hr : (Request.subscribe stream).withId (o.nextId + i) ∈ o.replay :=
      List.mem_mapIdx.2 ⟨i, hi, by rw [hget]⟩
    obtain ⟨word, hword⟩ := exists_lastWord hr (List.mem_singleton.2 rfl)
    obtain ⟨r', hr', -, hmethod⟩ := exists_of_lastWord hword
    obtain ⟨-, -, -, -, hsubscribe⟩ := hnames r' hr'
    rw [hword, ← hmethod, hsubscribe]
  · next h =>
    rw [Option.eq_none_iff_forall_ne_some]
    intro word hword
    obtain ⟨r', hr', hparams, -⟩ := exists_of_lastWord hword
    obtain ⟨s, hactive, hcovered, hs, -⟩ := hnames r' hr'
    rw [hs, List.mem_singleton] at hparams
    exact h (hparams ▸ ⟨hactive, hcovered⟩)

/-- The last words of the queue are heeded: a stream is wanted if the queue ends up subscribing
to it, and not wanted if the queue ends up unsubscribing from it. -/
def Heeded (o : Outbox) : Prop :=
  ∀ stream word, lastWord o.pending stream = some word →
    (stream ∈ o.active ↔ word = .subscribe)

/-- An empty queue has no last words. -/
theorem heeded_of_idle {o : Outbox} (h : o.pending = []) : o.Heeded := by
  intro stream word hword
  rw [h] at hword
  cases hword

/-- A request that comes to the end of the queue is heeded at once. -/
theorem Heeded.enqueue {o o' : Outbox} (h : o.Heeded) {r : Request}
    (hpending : o'.pending = o.pending ++ [r]) (hactive : o'.active = track o.active r) :
    o'.Heeded := by
  intro stream word hword
  rw [hpending, lastWord_append, lastWord_singleton] at hword
  rw [hactive, mem_track]
  split at hword
  · next hmem =>
    rw [Option.some_or, Option.some.injEq] at hword
    rw [if_pos hmem, hword]
  · next hmem =>
    rw [Option.none_or] at hword
    rw [if_neg hmem]
    exact h stream word hword

/-- Queue and replay together ask for the wanted streams.

**Proof sketch.** The replay has the last word on a wanted stream that the queue does not cover,
and it subscribes to it. On any other stream the queue has the last word: a wanted stream that
it covers has one, and it is to subscribe because it is heeded. -/
theorem lastWord_pending_replay {o : Outbox} (h : o.Heeded) (stream : String) :
    lastWord (o.pending ++ o.replay) stream = some .subscribe ↔ stream ∈ o.active := by
  rw [lastWord_append, lastWord_replay]
  split
  · next hnew => simp [hnew.1]
  · next hold =>
    rw [Option.none_or]
    constructor
    · intro hword
      exact (h stream _ hword).2 rfl
    · intro hactive
      have hcovered : stream ∈ covered o.pending := by
        by_contra hcovered
        exact hold ⟨hactive, hcovered⟩
      obtain ⟨word, hword⟩ := exists_lastWord_of_covered hcovered
      rw [hword, (h stream word hword).1 hactive]

end Outbox

/-! ### Runs -/

namespace Manager

variable {κ : Type}

/-- What one link has taken, in order. -/
def takenBy (m : Manager κ) (link : Nat) : List Request :=
  (m.written.filter (·.link = link)).map (·.request)

/-- What a link has taken after some link has taken a batch. -/
theorem takenBy_of_written {m m' : Manager κ} {link : Nat} {rs : List Request}
    (h : m'.written = m.written ++ Written.batch link rs) (other : Nat) :
    m'.takenBy other = m.takenBy other ++ if other = link then rs else [] := by
  have hbatch : (Written.batch link rs).filter (·.link = other) =
      if other = link then Written.batch link rs else [] := by
    split
    · next heq =>
      refine List.filter_eq_self.2 fun w hw => ?_
      simp [Written.link_of_mem_batch hw, heq]
    · next hne =>
      refine List.filter_eq_nil_iff.2 fun w hw => ?_
      simp [Written.link_of_mem_batch hw, Ne.symm hne]
  rw [takenBy, h, List.filter_append, hbatch, List.map_append, takenBy]
  split <;> simp

/-- A link that is not ready yet has taken nothing. -/
theorem takenBy_next {m : Manager κ} (h : m.Linked) : m.takenBy (m.connections + 1) = [] := by
  have hnone : m.written.filter (·.link = m.connections + 1) = [] := by
    refine List.filter_eq_nil_iff.2 fun w hw => ?_
    have := (h.known w hw).2
    simp only [decide_eq_true_eq]
    omega
  rw [takenBy, hnone, List.map_nil]

/-- How queue, wanted streams and link fit together. -/
structure Agreeing (m : Manager κ) : Prop where
  /-- What holds of links. -/
  linked : m.Linked
  /-- The last words of the queue are heeded. -/
  heeded : m.outbox.Heeded
  /-- What an open link has taken asks for the wanted streams. -/
  open_iff : ∀ s, m.outbox.openSink = some s →
    ∀ stream, lastWord (m.takenBy s.link) stream = some .subscribe ↔ stream ∈ m.outbox.active

namespace Agreeing

/-- At the start nothing is wanted, and there is no link. -/
theorem new (config : Config) : Agreeing ({ config := config } : Manager κ) where
  linked := .new config
  heeded := Outbox.heeded_of_idle rfl
  open_iff s h := by simp [Outbox.openSink] at h

/-- Submitting keeps the agreement: an open link takes the request that changes the wanted
streams, and otherwise it becomes the last word of the queue. -/
theorem submit {m : Manager κ} (h : m.Agreeing) (r : Request) : (m.submit r).1.Agreeing := by
  have hlinked := h.linked.submit r
  rcases m.submit_cases r with ⟨s, s', hs, hlink, hout, hwritten⟩ | ⟨hs, hout, hwritten⟩
  · refine ⟨hlinked, ?_, fun s₁ h₁ stream => ?_⟩
    · refine Outbox.heeded_of_idle ?_
      rw [hout]
      exact h.linked.idle s hs
    · have hs₁ : s₁ = s' := Outbox.eq_of_openSink h₁ (by rw [hout])
      rw [hs₁, hlink, takenBy_of_written hwritten, if_pos rfl, lastWord_append,
        lastWord_singleton, hout, Outbox.mem_track]
      split
      · simp
      · rw [Option.none_or]
        exact h.open_iff s hs stream
  · refine ⟨hlinked, ?_, fun s₁ h₁ => ?_⟩
    · exact h.heeded.enqueue (by rw [hout]) (by rw [hout])
    · have hnone : m.outbox.openSink = some s₁ := by rwa [hout] at h₁
      rw [hs] at hnone
      cases hnone

/-- A new link keeps the agreement: if it takes all, it has taken queue and replay; otherwise an
open link, if there is one, is another one. -/
theorem ready {m : Manager κ} (h : m.Agreeing) (room : Option Nat) :
    (m.ready ⟨m.connections + 1, room⟩).Agreeing := by
  have hlinked := h.linked.ready room
  have hother : ∀ {rs : List Request} {s : Sink}, m.outbox.openSink = some s →
      (m.ready ⟨m.connections + 1, room⟩).written =
        m.written ++ Written.batch (m.connections + 1) rs →
      (m.ready ⟨m.connections + 1, room⟩).takenBy s.link = m.takenBy s.link := by
    intro rs s hs hwritten
    have hheld := (h.linked.held s (Outbox.openSink_eq_some_iff.1 hs).2.1).2
    rw [takenBy_of_written hwritten, if_neg (by omega), List.append_nil]
  rcases m.ready_cases ⟨m.connections + 1, room⟩ with
    ⟨taken, left, hsplit, hout, hwritten⟩ | ⟨n, -, hout, hwritten⟩ |
      ⟨s', hlink, hout, hwritten⟩
  · refine ⟨hlinked, fun stream word hword => ?_, fun s hs => ?_⟩
    · rw [hout] at hword ⊢
      refine h.heeded stream word ?_
      rw [← hsplit, lastWord_append, hword, Option.some_or]
    · have hsame : m.outbox.openSink = some s := by rwa [hout] at hs
      rw [hother hsame hwritten, hout]
      exact h.open_iff s hsame
  · refine ⟨hlinked, Outbox.heeded_of_idle (by rw [hout]), fun s hs => ?_⟩
    have hsame : m.outbox.openSink = some s := by rwa [hout] at hs
    rw [hother hsame hwritten, hout]
    exact h.open_iff s hsame
  · refine ⟨hlinked, Outbox.heeded_of_idle (by rw [hout]), fun s hs stream => ?_⟩
    have hs' : s = s' := Outbox.eq_of_openSink hs (by rw [hout])
    have hnew : s.link = m.connections + 1 := by rw [hs', hlink]
    rw [takenBy_of_written hwritten, if_pos hnew, hnew, takenBy_next h.linked, List.nil_append,
      hout]
    exact Outbox.lastWord_pending_replay h.heeded stream

/-- What neither gives an open link nor changes queue, wanted streams or record keeps the
agreement. -/
theorem of_openSink {m m' : Manager κ} (h : m.Agreeing) (hlinked : m'.Linked)
    (hopen : ∀ s, m'.outbox.openSink = some s → m.outbox.openSink = some s)
    (hpending : m'.outbox.pending = m.outbox.pending) (hactive : m'.outbox.active = m.outbox.active)
    (hwritten : m'.written = m.written) : m'.Agreeing where
  linked := hlinked
  heeded stream word hword := by
    rw [hpending] at hword
    rw [hactive]
    exact h.heeded stream word hword
  open_iff s hs stream := by
    rw [takenBy, hwritten, hactive]
    exact h.open_iff s (hopen s hs) stream

/-- A turn of the link keeps the agreement. -/
theorem turn {m : Manager κ} (h : m.Agreeing) (t : Turn) : (m.turn t).Agreeing := by
  have hlinked := h.linked.turn t
  cases t with
  | ready room => exact h.ready room
  | refusing link =>
    exact h.of_openSink hlinked (fun _ hs => Outbox.openSink_of_stop hs) rfl rfl rfl
  | connecting | closed | dropped =>
    refine h.of_openSink hlinked (fun s hs => ?_) rfl rfl rfl
    cases (Outbox.openSink_eq_some_iff.1 hs).1

/-- A transition keeps the agreement. -/
theorem advance {m : Manager κ} (h : m.Agreeing) (t : Transition) : (m.advance t).Agreeing := by
  rcases m.advance_cases t with ⟨ht, -⟩ | ⟨r, ht, -⟩ | ⟨turn, ht, -⟩ <;> rw [ht]
  · exact h
  · exact h.submit r
  · exact h.turn turn

/-- A run keeps the agreement. -/
theorem run {m : Manager κ} (h : m.Agreeing) (ts : List Transition) : (m.run ts).Agreeing :=
  run_induction (P := Agreeing) (fun _ t h => h.advance t) h ts

end Agreeing

end Manager

/-! ### Clients -/

namespace Client

variable {κ : Type}

/-- **An open link serves the wanted streams.** Whatever callers, timers, tasks and links have
done: while there is a link that takes texts, a server that has obeyed all that this link has
taken sends the wanted streams.

**Proof sketch.** While there is no such link, the last word of the queue on a stream agrees
with what is wanted, since every request changes both. A link that takes the queue and the
replay has therefore been asked for the wanted streams, and every request that it takes later
changes both sides alike. A link that has died in between leaves a queue whose last words are
still right. -/
theorem server_agrees (config : Config) (es : List ClientEvent) (s : Sink)
    (hphase : ((idle config : Client κ).run es).manager.outbox.phase = .opened)
    (hsink : ((idle config : Client κ).run es).manager.outbox.sink = some s)
    (haccepts : s.accepts = true) :
    served (((idle config : Client κ).run es).manager.takenBy s.link) =
      ((idle config : Client κ).run es).manager.outbox.active.toFinset := by
  obtain ⟨ts, hrun, -⟩ := (idle config : Client κ).exists_transitions es
  have hagreeing : ((idle config : Client κ).run es).manager.Agreeing := by
    rw [hrun]
    exact (Manager.Agreeing.new config).run ts
  ext stream
  rw [mem_served, List.mem_toFinset]
  exact hagreeing.open_iff s (Outbox.openSink_eq_some_iff.2 ⟨hphase, hsink, haccepts⟩) stream

/-- A queue of subscriptions and ends of subscriptions that a first link takes in part. -/
private def twoLinks : List ClientEvent :=
  [.start, .manager (.submit ⟨.subscribe, ["a", "b"], none⟩),
    .manager (.submit (.unsubscribe "a")), .manager (.submit (.subscribe "c")),
    .wake 0 .begin, .wake 0 (.connected ⟨0, some 2⟩), .wake 0 .ended,
    .manager (.submit (.subscribe "a")), .manager (.submit (.unsubscribe "c")),
    .wake 0 .due, .wake 0 (.connected ⟨0, none⟩), .manager (.submit (.subscribe "d"))]

/-- A second link gets the rest of the queue and a replay. -/
theorem server_agrees_second_link :
    let m := ((idle {} : Client Unit).run twoLinks).manager
    m.outbox.phase = .opened ∧ m.outbox.sink = some ⟨2, none⟩ ∧
      (m.takenBy 2).map (·.params) = [["c"], ["a"], ["c"], ["b"], ["d"]] ∧
      m.outbox.active = ["a", "b", "d"] ∧ served (m.takenBy 2) = m.outbox.active.toFinset := by
  have hphase : ((idle {} : Client Unit).run twoLinks).manager.outbox.phase = .opened := by
    decide +kernel
  have hsink : ((idle {} : Client Unit).run twoLinks).manager.outbox.sink = some ⟨2, none⟩ := by
    decide +kernel
  exact ⟨hphase, hsink, by decide +kernel, by decide +kernel,
    server_agrees {} twoLinks ⟨2, none⟩ hphase hsink rfl⟩

end Client

end BookFeed.Connection
