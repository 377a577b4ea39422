import BookFeed.Proofs.Connection.Agreement

set_option autoImplicit false

/-!
# New links that break off

A new link is offered the queue and, behind it, a subscription for each wanted stream that no
subscription in the queue names. It may refuse any of these requests, in the queue or in the
replay. What it has taken by then is a start of the offer; what it has not taken of the queue is
still there, in the old order; and the number of a refused replay is not given again. As nothing
is known of streams that were replayed in vain, the next link that takes all is asked for all
wanted streams.

## Main definitions

* `BookFeed.Connection.subscriptions` — numbered subscriptions, one for each stream.
* `BookFeed.Connection.Fits` — a link takes a whole batch.
* `BookFeed.Connection.Manager.TookAll`, `BookFeed.Connection.Manager.BrokeOff` — the two ends
  of a new link.

## Main results

* `BookFeed.Connection.Outbox.ready_of_fits`, `BookFeed.Connection.Outbox.ready_of_cut_queue`,
  `BookFeed.Connection.Outbox.ready_of_cut_replay` — what becomes of a new link, for each cut.
* `BookFeed.Connection.Manager.ascending_run` — the wanted streams are kept in order.
* `BookFeed.Connection.Client.offered_at_every_cut` — what new links take of what they are
  offered.
-/

namespace BookFeed.Connection

open Feed

/-- A subscription for each of the streams, with numbers from `next` on. -/
def subscriptions (next : Nat) (streams : List String) : List Request :=
  streams.mapIdx fun i stream => (Request.subscribe stream).withId (next + i)

/-- Whether a link that takes `room` texts takes a whole batch. -/
def Fits (room : Option Nat) (rs : List Request) : Prop := ∀ n ∈ room, rs.length ≤ n

@[simp] theorem fits_none (rs : List Request) : Fits none rs := fun n hn => by cases hn

@[simp] theorem fits_some {n : Nat} {rs : List Request} : Fits (some n) rs ↔ rs.length ≤ n := by
  simp [Fits]

/-! ### The order of the wanted streams -/

namespace Outbox

theorem pairwise_insertSorted (s : String) {ts : List String} (h : ts.Pairwise (· < ·)) :
    (insertSorted s ts).Pairwise (· < ·) := by
  induction ts with
  | nil => exact List.pairwise_singleton _ _
  | cons t ts ih =>
    obtain ⟨ht, hts⟩ := List.pairwise_cons.1 h
    unfold insertSorted
    split
    · exact h
    · next hne =>
      split
      -- `s` is put in front of `t`
      · next hlt =>
        refine List.pairwise_cons.2 ⟨fun u hu => ?_, h⟩
        rcases List.mem_cons.1 hu with rfl | hu
        · exact hlt
        · exact String.lt_trans hlt (ht u hu)
      -- `s` is put somewhere behind `t`
      · next hnot =>
        have hlt : t < s := by
          by_contra hge
          exact hne (String.le_antisymm (String.not_lt.1 hge) (String.not_lt.1 hnot))
        refine List.pairwise_cons.2 ⟨fun u hu => ?_, ih hts⟩
        rcases mem_insertSorted.1 hu with rfl | hu
        · exact hlt
        · exact ht u hu

theorem pairwise_track {active : List String} (h : active.Pairwise (· < ·)) (r : Request) :
    (track active r).Pairwise (· < ·) := by
  obtain ⟨method, params, id⟩ := r
  simp only [track]
  induction params generalizing active with
  | nil => exact h
  | cons p ps ih =>
    rw [List.foldl_cons]
    apply ih
    cases method with
    | subscribe => exact pairwise_insertSorted p h
    | unsubscribe => exact h.filter _

end Outbox

namespace Manager

variable {κ : Type}

theorem ascending_advance {m : Manager κ} (h : m.outbox.active.Pairwise (· < ·))
    (t : Transition) :
    (m.advance t).outbox.active.Pairwise (· < ·) := by
  rcases m.advance_cases t with ⟨ht, -⟩ | ⟨r, ht, -⟩ | ⟨turn, ht, -⟩ <;> rw [ht]
  · exact h
  · rw [active_submit]
    exact Outbox.pairwise_track h _
  · rwa [active_turn]

/-- The wanted streams are kept in ascending order, each once. -/
theorem ascending_run {m : Manager κ} (h : m.outbox.active.Pairwise (· < ·))
    (ts : List Transition) : (m.run ts).outbox.active.Pairwise (· < ·) :=
  run_induction (P := fun m => m.outbox.active.Pairwise (· < ·))
    (fun _ t h => ascending_advance h t) h ts

end Manager

/-! ### What a link takes -/

namespace Sink

theorem taken_of_fits {s : Sink} {rs : List Request} (h : Fits s.room rs) :
    (s.hand rs).taken = rs ∧ (s.hand rs).left = [] := by
  unfold hand
  split
  · exact ⟨rfl, rfl⟩
  · next n hroom =>
    have hlength := h n hroom
    exact ⟨List.take_of_length_le hlength, List.drop_of_length_le hlength⟩

theorem hand_of_room {s : Sink} {n : Nat} (h : s.room = some n) (rs : List Request) :
    (s.hand rs).taken = rs.take n ∧ (s.hand rs).left = rs.drop n ∧
      (s.hand rs).sink.room = some (n - rs.length) := by
  simp [hand, h]

/-- A link that takes a batch in one go takes it in two. -/
theorem fits_of_append {s : Sink} {rs rs' : List Request} (h : Fits s.room (rs ++ rs')) :
    Fits s.room rs ∧ Fits (s.hand rs).sink.room rs' := by
  unfold hand
  split
  · next hroom =>
    rw [hroom]
    exact ⟨fits_none rs, fits_none rs'⟩
  · next n hroom =>
    rw [hroom, fits_some, List.length_append] at h
    rw [hroom, fits_some, fits_some]
    omega

end Sink

namespace Outbox

variable {o : Outbox} {s : Sink} {n : Nat}

/-- A link that takes all that it is offered is open. -/
theorem ready_of_fits (h : Fits s.room (o.pending ++ o.replay)) :
    o.ready s =
      ({ o with
          phase := .opened
          nextId := o.nextId + o.replay.length
          pending := []
          sink := some ((s.hand o.pending).sink.hand o.replay).sink },
        o.pending ++ o.replay) := by
  obtain ⟨hqueue, hreplay⟩ := Sink.fits_of_append h
  obtain ⟨htaken, hleft⟩ := Sink.taken_of_fits hqueue
  obtain ⟨htaken', hleft'⟩ := Sink.taken_of_fits hreplay
  simp [ready, htaken, hleft, htaken', hleft']

/-- A link that refuses a request of the queue leaves it and all behind it. -/
theorem ready_of_cut_queue (hroom : s.room = some n) (h : n < o.pending.length) :
    o.ready s = ({ o with pending := o.pending.drop n }, o.pending.take n) := by
  obtain ⟨htaken, hleft, -⟩ := Sink.hand_of_room hroom o.pending
  have hsome : ¬ o.pending.length ≤ n := by omega
  simp [ready, htaken, hleft, List.drop_eq_nil_iff, hsome]

/-- A link that refuses a replayed subscription has taken the queue, and one number is lost. -/
theorem ready_of_cut_replay (hroom : s.room = some n) (hqueue : o.pending.length ≤ n)
    (h : n < o.pending.length + o.replay.length) :
    o.ready s =
      ({ o with nextId := o.nextId + (n - o.pending.length) + 1, pending := [] },
        o.pending ++ o.replay.take (n - o.pending.length)) := by
  obtain ⟨htaken, hleft, hrest⟩ := Sink.hand_of_room hroom o.pending
  obtain ⟨htaken', hleft', -⟩ := Sink.hand_of_room hrest o.replay
  have hsome : ¬ o.replay.length ≤ n - o.pending.length := by omega
  simp [ready, htaken, hleft, htaken', hleft', List.drop_eq_nil_iff, hqueue, hsome,
    List.take_of_length_le hqueue, Nat.min_eq_left (Nat.le_of_not_le hsome)]

theorem mem_covered {rs : List Request} {stream : String} :
    stream ∈ covered rs ↔ ∃ r ∈ rs, r.method = .subscribe ∧ stream ∈ r.params := by
  simp [covered, and_assoc]

/-- The replay consists of one subscription for each wanted stream that no subscription in the
queue names, in the order of the streams and numbered on. -/
theorem exists_replay (h : o.active.Pairwise (· < ·)) :
    ∃ streams : List String, o.replay = subscriptions o.nextId streams ∧
      streams.Pairwise (· < ·) ∧
      ∀ stream, stream ∈ streams ↔
        stream ∈ o.active ∧
          ∀ r ∈ o.pending, r.method = .subscribe → stream ∉ r.params := by
  refine ⟨o.active.filter (!(covered o.pending).contains ·), rfl, h.filter _, fun stream => ?_⟩
  simp [mem_covered]

end Outbox

/-! ### The two ends of a new link -/

namespace Manager

variable {κ : Type}

/-- What a new link is offered: the queue, and behind it the replay. -/
def offer (m : Manager κ) : List Request := m.outbox.pending ++ m.outbox.replay

/-- A new link has taken all that it was offered. -/
structure TookAll (m m' : Manager κ) : Prop where
  written : m'.written = m.written ++ Written.batch (m.connections + 1) m.offer
  idle : m'.outbox.pending = []
  opened : m'.outbox.phase = .opened
  active : m'.outbox.active = m.outbox.active
  /-- No number of the offer is given again. -/
  spent : ∀ k ∈ numbers m.offer, k < m'.outbox.nextId

/-- A new link has taken `n` texts of what it was offered, and has refused the next one. -/
structure BrokeOff (m m' : Manager κ) (n : Nat) : Prop where
  written : m'.written = m.written ++ Written.batch (m.connections + 1) (m.offer.take n)
  pending : m'.outbox.pending = m.outbox.pending.drop n
  phase : m'.outbox.phase = m.outbox.phase
  active : m'.outbox.active = m.outbox.active
  /-- No number of what was taken is given again, nor that of the refused text. -/
  spent : ∀ k ∈ numbers (m.offer.take (n + 1)), k < m'.outbox.nextId

/-- What a run from the start has given out lies below the next number. -/
theorem number_lt_next (config : Config) (ts : List Transition) :
    ∀ k ∈ numbers (({ config := config } : Manager κ).run ts).ledger,
      k < (({ config := config } : Manager κ).run ts).outbox.nextId := by
  obtain ⟨new, hnew⟩ :=
    extends_run (.new config : ({ config := config } : Manager κ).Linked) ts
  intro k hk
  have hledger : (({ config := config } : Manager κ).run ts).ledger = new := by
    rw [hnew.ledger_eq]
    rfl
  rw [hledger] at hk
  exact (hnew.numbered.between k hk).2

section NewLink

variable {m : Manager κ} (hgiven : ∀ k ∈ numbers m.ledger, k < m.outbox.nextId)

include hgiven in
theorem number_lt_of_mem_pending {k : Nat} (hk : k ∈ numbers m.outbox.pending) :
    k < m.outbox.nextId := by
  refine hgiven k ?_
  rw [ledger, numbers_append]
  exact List.mem_append_right _ hk

include hgiven in
theorem tookAll_of_fits {room : Option Nat} (h : Fits room m.offer) :
    m.TookAll (m.turn (.ready room)) := by
  have hready := Outbox.ready_of_fits (s := ⟨m.connections + 1, room⟩) h
  refine ⟨?_, ?_, ?_, m.active_turn _, fun k hk => ?_⟩
  · simp [turn, ready, record, hready, Written.batch, offer]
  · simp [turn, ready, record, hready]
  · simp [turn, ready, record, hready]
  · have hnext : (m.turn (.ready room)).outbox.nextId =
        m.outbox.nextId + m.outbox.replay.length := by simp [turn, ready, record, hready]
    rw [offer, numbers_append, List.mem_append] at hk
    rw [hnext]
    rcases hk with hk | hk
    · exact Nat.lt_add_right _ (number_lt_of_mem_pending hgiven hk)
    · exact ((Numbered.replay m.outbox).between k hk).2

include hgiven in
theorem brokeOff_of_lt {n : Nat} (h : n < m.offer.length) :
    m.BrokeOff (m.turn (.ready (some n))) n := by
  rw [offer, List.length_append] at h
  -- the link breaks off in the queue or in the replay
  rcases Nat.lt_or_ge n m.outbox.pending.length with hqueue | hqueue
  · have hready := Outbox.ready_of_cut_queue (s := ⟨m.connections + 1, some n⟩) rfl hqueue
    refine ⟨?_, ?_, ?_, m.active_turn _, fun k hk => ?_⟩
    · simp [turn, ready, record, hready, Written.batch, offer,
        List.take_append_of_le_length (Nat.le_of_lt hqueue)]
    · simp [turn, ready, record, hready]
    · simp [turn, ready, record, hready]
    · have hnext : (m.turn (.ready (some n))).outbox.nextId = m.outbox.nextId := by
        simp [turn, ready, record, hready]
      rw [offer, List.take_append_of_le_length hqueue] at hk
      rw [hnext]
      exact number_lt_of_mem_pending hgiven (((List.take_sublist _ _).filterMap _).subset hk)
  · have hready := Outbox.ready_of_cut_replay (s := ⟨m.connections + 1, some n⟩) rfl hqueue h
    refine ⟨?_, ?_, ?_, m.active_turn _, fun k hk => ?_⟩
    · simp [turn, ready, record, hready, Written.batch, offer, List.take_append,
        List.take_of_length_le hqueue]
    · simp [turn, ready, record, hready, List.drop_of_length_le hqueue]
    · simp [turn, ready, record, hready]
    · have hnext : (m.turn (.ready (some n))).outbox.nextId =
          m.outbox.nextId + (n + 1 - m.outbox.pending.length) := by
        simp [turn, ready, record, hready]
        omega
      rw [offer, List.take_append, List.take_of_length_le (by omega), numbers_append,
        List.mem_append] at hk
      rw [hnext]
      rcases hk with hk | hk
      · exact Nat.lt_add_right _ (number_lt_of_mem_pending hgiven hk)
      · exact ((Numbered.take_replay m.outbox (by omega)).between k hk).2

end NewLink

/-- A new link that has taken all serves the wanted streams, whatever links before it have
done. -/
theorem TookAll.serves {m m' : Manager κ} (h : m.TookAll m') (hagreeing : m.Agreeing) :
    served (m'.takenBy (m.connections + 1)) = m'.outbox.active.toFinset := by
  ext stream
  rw [mem_served, takenBy_of_written h.written, if_pos rfl, takenBy_next hagreeing.linked,
    List.nil_append, List.mem_toFinset, h.active]
  exact Outbox.lastWord_pending_replay hagreeing.heeded stream

end Manager

/-! ### Clients -/

namespace Client

variable {κ : Type}

theorem number_lt_next (config : Config) (es : List ClientEvent) :
    ∀ k ∈ numbers ((idle config : Client κ).run es).manager.ledger,
      k < ((idle config : Client κ).run es).manager.outbox.nextId := by
  rw [manager_run]
  exact Manager.number_lt_next config _

/-- **What new links take of what they are offered, at every cut.** Whatever has happened so
far, let no link be open. The replay is one subscription for each wanted stream that no
subscription in the queue names, in ascending order, with the next numbers, none of which has
been given before. A new link that takes all of queue and replay is open, and nothing waits. One
that stops after `n` texts has taken the first `n` of them; the rest of the queue waits in its
order, the same streams are wanted, no link is open, and no number of the offer is given a
second time. And after that, as soon as a link takes all that it is offered, it is open and
serves the wanted streams.

**Proof sketch.** A link breaks off in the queue, in the replay or not at all, and in each case
its effect is one equation of the outbox. The last statement does not need to know the cut:
queue and replay together ask for the wanted streams after every run. -/
theorem offered_at_every_cut (config : Config) (es : List ClientEvent)
    (hphase : ((idle config : Client κ).run es).manager.outbox.phase ≠ .opened) :
    let m := ((idle config : Client κ).run es).manager
    (∃ streams : List String, m.outbox.replay = subscriptions m.outbox.nextId streams ∧
      streams.Pairwise (· < ·) ∧
      ∀ stream, stream ∈ streams ↔ stream ∈ m.outbox.active ∧
        ∀ r ∈ m.outbox.pending, r.method = .subscribe → stream ∉ r.params) ∧
    (∀ k ∈ numbers m.ledger, k < m.outbox.nextId) ∧
    (∀ room, Fits room m.offer → m.TookAll (m.turn (.ready room))) ∧
    (∀ n, n < m.offer.length → m.BrokeOff (m.turn (.ready (some n))) n ∧
      (m.turn (.ready (some n))).outbox.phase ≠ .opened) ∧
    ∀ room es',
      let m' := ((idle config : Client κ).run
        (es ++ .manager (.turn (.ready room)) :: .manager (.turn .closed) :: es')).manager
      ∀ room', Fits room' m'.offer →
        (m'.turn (.ready room')).outbox.phase = .opened ∧
        served ((m'.turn (.ready room')).takenBy (m'.connections + 1)) =
          (m'.turn (.ready room')).outbox.active.toFinset := by
  intro m
  have hgiven : ∀ k ∈ numbers m.ledger, k < m.outbox.nextId := number_lt_next config es
  have hascending : m.outbox.active.Pairwise (· < ·) := by
    show ((idle config : Client κ).run es).manager.outbox.active.Pairwise _
    rw [manager_run]
    exact Manager.ascending_run .nil _
  refine ⟨Outbox.exists_replay hascending, hgiven,
    fun room h => Manager.tookAll_of_fits hgiven h, fun n h => ?_, fun room es' => ?_⟩
  · have hbroke := Manager.brokeOff_of_lt hgiven h
    exact ⟨hbroke, by rwa [hbroke.phase]⟩
  · intro m' room' h
    -- the links in between do not matter: every run keeps queue and replay in agreement with
    -- what is wanted
    have htook : m'.TookAll (m'.turn (.ready room')) :=
      Manager.tookAll_of_fits (number_lt_next config _) h
    refine ⟨htook.opened, htook.serves ?_⟩
    show ((idle config : Client κ).run _).manager.Agreeing
    rw [manager_run]
    exact (Manager.Agreeing.new config).run _

/-- A link has served two streams, and three requests wait for the next one. -/
private def betweenLinks : List ClientEvent :=
  [.manager (.submit (.subscribe "b")), .manager (.submit (.subscribe "a")),
    .manager (.turn (.ready none)), .manager (.turn .dropped),
    .manager (.submit (.subscribe "c")), .manager (.submit (.unsubscribe "b")),
    .manager (.submit (.subscribe "d")), .manager (.turn .connecting)]

/-- One link breaks off in the queue; another one takes the queue and refuses the replay, and
the link after that is asked for all three streams. -/
theorem offered_at_every_cut_two_cuts :
    let m := ((idle {} : Client Unit).run betweenLinks).manager
    m.outbox.phase ≠ .opened ∧ m.offer.map (·.params) = [["c"], ["b"], ["d"], ["a"]] ∧
      1 < m.offer.length ∧ m.BrokeOff (m.turn (.ready (some 1))) 1 ∧
      3 < m.offer.length ∧ m.BrokeOff (m.turn (.ready (some 3))) 3 ∧
      let m' := ((idle {} : Client Unit).run (betweenLinks ++
        [.manager (.turn (.ready (some 3))), .manager (.turn .closed)])).manager
      m'.offer.map (·.id) = [some 7, some 8, some 9] ∧ Fits none m'.offer ∧
        served ((m'.turn (.ready none)).takenBy 3) = {"a", "c", "d"} := by
  intro m
  have hphase : ((idle {} : Client Unit).run betweenLinks).manager.outbox.phase ≠ .opened := by
    decide +kernel
  obtain ⟨-, -, -, hcut, hnext⟩ := offered_at_every_cut {} betweenLinks hphase
  have hone : 1 < ((idle {} : Client Unit).run betweenLinks).manager.offer.length := by
    decide +kernel
  have hthree : 3 < ((idle {} : Client Unit).run betweenLinks).manager.offer.length := by
    decide +kernel
  refine ⟨hphase, by decide +kernel, hone, (hcut 1 hone).1, hthree, (hcut 3 hthree).1, ?_⟩
  intro m'
  refine ⟨by decide +kernel, fits_none _, ?_⟩
  have hserved := (hnext (some 3) [] none (fits_none _)).2
  calc served ((m'.turn (.ready none)).takenBy 3)
      = (m'.turn (.ready none)).outbox.active.toFinset := hserved
    _ = {"a", "c", "d"} := by decide +kernel

end Client

end BookFeed.Connection
