import BookFeed.Proofs.Connection.Cuts

set_option autoImplicit false

/-!
# Repeated wishes and the queue

A timer repeats a wish only while the connection is open, so that repetitions are handed over at
once and do not wait. That fails in one state: the phase is still open, but the link takes
nothing any more. There each repetition joins the queue. A stretch of time without a new link
brings nothing but requests of callers into the queue exactly if no wish is repeated in that
state.

## Main definitions

* `BookFeed.Connection.Outbox.Stalled` — open, without a link that takes texts.
* `BookFeed.Connection.Manager.asked`, `BookFeed.Connection.Manager.enqueued` — what callers
  submit in a run, and what comes into the queue.
* `BookFeed.Connection.Manager.Calm` — no wish is repeated while the outbox is stalled.

## Main results

* `BookFeed.Connection.Manager.pending_repeatSubscription` — what a repetition does to the
  queue.
* `BookFeed.Connection.Manager.enqueued_subset_asked_iff` — whose requests come into the
  queue.
* `BookFeed.Connection.Client.only_callers_wait_iff` — the same for clients.
* `BookFeed.Connection.Client.repeated_wishes_wait` — repetitions that pile up.
-/

namespace BookFeed.Connection

open Feed

/-- The phase is open, but there is no link that takes texts. -/
def Outbox.Stalled (o : Outbox) : Prop := o.phase = .opened ∧ o.openSink = none

instance (o : Outbox) : Decidable o.Stalled :=
  inferInstanceAs (Decidable (o.phase = .opened ∧ o.openSink = none))

/-- Whether a new link becomes ready. -/
def Transition.makesLink : Transition → Bool
  | .turn (.ready _) => true
  | _ => false

namespace Manager

variable {κ : Type}

/-! ### One transition -/

/-- The request that a caller submits in a transition, with its number. -/
def askedBy (m : Manager κ) : Transition → List Request
  | .submit r => [m.outbox.stamp r]
  | _ => []

/-- The request that comes into the queue in a transition. -/
def enqueuedBy (m : Manager κ) : Transition → List Request
  | .submit r => if m.outbox.openSink = none then [m.outbox.stamp r] else []
  | .repeatWish stream =>
    if m.outbox.Stalled then [m.outbox.stamp (.subscribe stream)] else []
  | .turn _ => []

theorem pending_submit (m : Manager κ) (r : Request) :
    (m.submit r).1.outbox.pending =
      m.outbox.pending ++ if m.outbox.openSink = none then [m.outbox.stamp r] else [] := by
  cases h : m.outbox.openSink with
  | some s => simp [submit_of_openSink h, record]
  | none => simp [submit_of_waiting h]

theorem nextId_submit (m : Manager κ) (r : Request) :
    (m.submit r).1.outbox.nextId = m.outbox.nextId + 1 := by
  cases h : m.outbox.openSink with
  | some s => simp [submit_of_openSink h, record]
  | none => simp [submit_of_waiting h]

/-- A repetition comes into the queue if the outbox is stalled, and only then. -/
theorem pending_repeatSubscription (m : Manager κ) (stream : String) :
    (m.repeatSubscription stream).outbox.pending =
      m.outbox.pending ++
        if m.outbox.Stalled then [m.outbox.stamp (.subscribe stream)] else [] := by
  unfold repeatSubscription Outbox.Stalled
  by_cases hopen : m.outbox.phase = .opened
  · rw [if_pos (by simp [Outbox.isOpen, hopen]), pending_submit]
    simp [hopen]
  · rw [if_neg (by simp [Outbox.isOpen, hopen])]
    simp [hopen]

theorem pending_advance (m : Manager κ) {t : Transition} (h : t.makesLink = false) :
    (m.advance t).outbox.pending = m.outbox.pending ++ m.enqueuedBy t := by
  cases t with
  | submit r => exact m.pending_submit r
  | repeatWish stream => exact m.pending_repeatSubscription stream
  | turn t =>
    cases t with
    | ready room => cases h
    | connecting | refusing link | closed | dropped => exact (List.append_nil _).symm

theorem nextId_le_advance (m : Manager κ) {t : Transition} (h : t.makesLink = false) :
    m.outbox.nextId ≤ (m.advance t).outbox.nextId := by
  cases t with
  | submit r => exact Nat.le_of_lt (Nat.lt_of_succ_le (Nat.le_of_eq (m.nextId_submit r).symm))
  | repeatWish stream =>
    simp only [advance, repeatSubscription]
    split
    · exact Nat.le_of_lt (Nat.lt_of_succ_le (Nat.le_of_eq (m.nextId_submit _).symm))
    · exact Nat.le_refl _
  | turn t =>
    cases t with
    | ready room => cases h
    | connecting | refusing link | closed | dropped => exact Nat.le_refl _

/-- What is submitted or queued in a transition has a number that is not given again. -/
theorem number_of_mem {m : Manager κ} {t : Transition} {r : Request}
    (h : r ∈ m.askedBy t ∨ r ∈ m.enqueuedBy t) :
    r.id = some m.outbox.nextId ∧ m.outbox.nextId < (m.advance t).outbox.nextId := by
  cases t with
  | submit r₀ =>
    have hr : r = m.outbox.stamp r₀ := by
      rcases h with h | h
      · exact List.mem_singleton.1 h
      · simp only [enqueuedBy] at h
        split at h
        · exact List.mem_singleton.1 h
        · cases h
    refine ⟨by rw [hr]; rfl, ?_⟩
    rw [advance, nextId_submit]
    exact Nat.lt_succ_self _
  | repeatWish stream =>
    rcases h with h | h
    · cases h
    · simp only [enqueuedBy] at h
      split at h
      · next hstalled =>
        refine ⟨by rw [List.mem_singleton.1 h]; rfl, ?_⟩
        rw [advance, repeatSubscription, if_pos (by simp [Outbox.isOpen, hstalled.1]),
          nextId_submit]
        exact Nat.lt_succ_self _
      · cases h
  | turn t => rcases h with h | h <;> cases h

/-- Whatever a transition puts into the queue a caller has submitted, unless it is a repetition
in a stalled outbox. -/
theorem enqueuedBy_subset_askedBy_iff (m : Manager κ) (t : Transition) :
    (∀ r ∈ m.enqueuedBy t, r ∈ m.askedBy t) ↔
      ∀ stream, t = .repeatWish stream → ¬ m.outbox.Stalled := by
  cases t with
  | submit r =>
    refine iff_of_true (fun r' hr' => ?_) (fun stream h => by cases h)
    simp only [enqueuedBy] at hr'
    split at hr'
    · exact hr'
    · cases hr'
  | repeatWish stream =>
    by_cases hstalled : m.outbox.Stalled
    · simp [enqueuedBy, askedBy, hstalled]
    · simp [enqueuedBy, hstalled]
  | turn t => exact iff_of_true (fun r hr => by cases hr) (fun stream h => by cases h)

/-! ### Runs -/

/-- What callers submit in a run, with their numbers. -/
def asked : Manager κ → List Transition → List Request
  | _, [] => []
  | m, t :: ts => m.askedBy t ++ asked (m.advance t) ts

/-- What comes into the queue in a run. -/
def enqueued : Manager κ → List Transition → List Request
  | _, [] => []
  | m, t :: ts => m.enqueuedBy t ++ enqueued (m.advance t) ts

/-- In a run no wish is repeated while the outbox is stalled. -/
def Calm (m : Manager κ) (ts : List Transition) : Prop :=
  ∀ before stream later, ts = before ++ .repeatWish stream :: later →
    ¬ (m.run before).outbox.Stalled

theorem calm_nil (m : Manager κ) : m.Calm [] := by
  intro before stream later h
  simp at h

theorem calm_cons (m : Manager κ) (t : Transition) (ts : List Transition) :
    m.Calm (t :: ts) ↔
      (∀ stream, t = .repeatWish stream → ¬ m.outbox.Stalled) ∧ (m.advance t).Calm ts := by
  constructor
  · intro h
    refine ⟨fun stream ht => ?_, fun before stream later hts => ?_⟩
    · exact h [] stream ts (by rw [ht]; rfl)
    · exact h (t :: before) stream later (by rw [hts]; rfl)
  · rintro ⟨hnow, hlater⟩ before stream later h
    cases before with
    | nil => exact hnow stream (List.cons.inj h).1
    | cons t' before =>
      obtain ⟨rfl, hts⟩ := List.cons.inj h
      exact hlater before stream later hts

/-- Without a new link the queue only grows. -/
theorem pending_run (m : Manager κ) {ts : List Transition}
    (h : ∀ t ∈ ts, t.makesLink = false) :
    (m.run ts).outbox.pending = m.outbox.pending ++ m.enqueued ts := by
  induction ts generalizing m with
  | nil => exact (List.append_nil _).symm
  | cons t ts ih =>
    obtain ⟨ht, hts⟩ := List.forall_mem_cons.1 h
    show ((m.advance t).run ts).outbox.pending = _
    rw [ih (m.advance t) hts, pending_advance m ht, enqueued, List.append_assoc]

theorem number_ge_of_mem {m : Manager κ} {ts : List Transition}
    (hts : ∀ t ∈ ts, t.makesLink = false) {r : Request}
    (h : r ∈ m.asked ts ∨ r ∈ m.enqueued ts) :
    ∃ k, r.id = some k ∧ m.outbox.nextId ≤ k := by
  induction ts generalizing m with
  | nil => rcases h with h | h <;> cases h
  | cons t ts ih =>
    obtain ⟨ht, hts⟩ := List.forall_mem_cons.1 hts
    rw [asked, enqueued, List.mem_append, List.mem_append] at h
    have hsplit : (r ∈ m.askedBy t ∨ r ∈ m.enqueuedBy t) ∨
        (r ∈ (m.advance t).asked ts ∨ r ∈ (m.advance t).enqueued ts) := by tauto
    rcases hsplit with hnow | hlater
    · exact ⟨_, (number_of_mem hnow).1, Nat.le_refl _⟩
    · obtain ⟨k, hk, hle⟩ := ih hts hlater
      exact ⟨k, hk, Nat.le_trans (m.nextId_le_advance ht) hle⟩

/-- **Whose requests come into the queue.** Without a new link, callers have submitted all that
comes into the queue exactly if no wish is repeated while the outbox is stalled.

**Proof sketch.** Induction on the run. Numbers keep its first transition apart from the others:
what the first one puts into the queue is submitted by it or not at all. -/
theorem enqueued_subset_asked_iff (m : Manager κ) {ts : List Transition}
    (h : ∀ t ∈ ts, t.makesLink = false) :
    (∀ r ∈ m.enqueued ts, r ∈ m.asked ts) ↔ m.Calm ts := by
  induction ts generalizing m with
  | nil => exact iff_of_true (fun r hr => by cases hr) m.calm_nil
  | cons t ts ih =>
    obtain ⟨-, hts⟩ := List.forall_mem_cons.1 h
    -- a request of the first transition is none of the later ones: its number is not given
    -- again
    have hapart : ∀ r, (r ∈ m.askedBy t ∨ r ∈ m.enqueuedBy t) →
        ¬ (r ∈ (m.advance t).asked ts ∨ r ∈ (m.advance t).enqueued ts) := by
      intro r hnow hlater
      obtain ⟨hid, hlt⟩ := number_of_mem hnow
      obtain ⟨k, hk, hle⟩ := number_ge_of_mem hts hlater
      rw [hid, Option.some.injEq] at hk
      omega
    rw [calm_cons, ← enqueuedBy_subset_askedBy_iff, ← ih (m.advance t) hts, enqueued, asked]
    constructor
    · intro hall
      refine ⟨fun r hr => ?_, fun r hr => ?_⟩
      · rcases List.mem_append.1 (hall r (List.mem_append_left _ hr)) with hasked | hasked
        · exact hasked
        · exact absurd (Or.inl hasked) (hapart r (Or.inr hr))
      · rcases List.mem_append.1 (hall r (List.mem_append_right _ hr)) with hasked | hasked
        · exact absurd (Or.inr hr) (hapart r (Or.inl hasked))
        · exact hasked
    · rintro ⟨hnow, hlater⟩ r hr
      rcases List.mem_append.1 hr with hr | hr
      · exact List.mem_append_left _ (hnow r hr)
      · exact List.mem_append_right _ (hlater r hr)

end Manager

/-! ### Clients -/

namespace Client

variable {κ : Type}

/-- **Only requests of callers wait, unless wishes are repeated in vain.** Whatever has happened
so far, a repetition of a wish leaves the queue as it is, except in a stalled outbox, where it
becomes the last request of the queue. So as long as no new link becomes ready, all that comes
into the queue has been submitted by callers exactly if no wish is repeated while the outbox is
stalled.

**Proof sketch.** The requests that come into the queue have numbers that have not been given
before, so none of them was waiting at the start; then `enqueued_subset_asked_iff`. -/
theorem only_callers_wait_iff (config : Config) (es es' : List ClientEvent)
    (hlink : ∀ t ∈ ((idle config : Client κ).run es).transitions es', t.makesLink = false) :
    let c := (idle config : Client κ).run es
    let m := c.manager
    (∀ stream, (m.repeatSubscription stream).outbox.pending =
      if m.outbox.Stalled then m.outbox.pending ++ [m.outbox.stamp (.subscribe stream)]
      else m.outbox.pending) ∧
    ((∀ r ∈ (c.run es').manager.outbox.pending,
        r ∈ m.outbox.pending ∨ r ∈ m.asked (c.transitions es')) ↔
      m.Calm (c.transitions es')) := by
  intro c m
  have hgiven : ∀ k ∈ numbers m.ledger, k < m.outbox.nextId := number_lt_next config es
  have hnew : ∀ r ∈ m.enqueued (c.transitions es'), r ∉ m.outbox.pending := by
    intro r hr hpending
    obtain ⟨k, hk, hle⟩ := Manager.number_ge_of_mem hlink (Or.inr hr)
    have hmem : k ∈ numbers m.outbox.pending := List.mem_filterMap.2 ⟨r, hpending, hk⟩
    exact Nat.not_le_of_lt (Manager.number_lt_of_mem_pending hgiven hmem) hle
  refine ⟨fun stream => ?_, ?_⟩
  · rw [Manager.pending_repeatSubscription]
    split
    · rfl
    · exact List.append_nil _
  · rw [← m.enqueued_subset_asked_iff hlink, manager_run, Manager.pending_run _ hlink]
    constructor
    · intro hall r hr
      exact (hall r (List.mem_append_right _ hr)).resolve_left (hnew r hr)
    · intro hall r hr
      exact (List.mem_append.1 hr).imp_right (hall r)

/-- A link that serves one stream. -/
private def oneStream : List ClientEvent :=
  [.manager (.submit (.subscribe "ticker")), .start, .wake 0 .begin,
    .wake 0 (.connected ⟨0, none⟩)]

/-- Wishes are repeated while the link takes texts and again when it has ended; a request of a
caller comes when the link takes nothing any more. -/
private def repeatedInTime : List ClientEvent :=
  [.manager (.repeatWish "ticker"), .manager (.turn (.refusing 1)),
    .manager (.submit (.subscribe "trade")), .wake 0 .ended, .manager (.repeatWish "ticker")]

/-- Then only that request waits. -/
theorem only_callers_wait_iff_in_time :
    let c := (idle {} : Client Unit).run oneStream
    (∀ t ∈ c.transitions repeatedInTime, t.makesLink = false) ∧
      (c.run repeatedInTime).manager.outbox.pending = [(Request.subscribe "trade").withId 3] ∧
      c.manager.Calm (c.transitions repeatedInTime) := by
  intro c
  have hlink : ∀ t ∈ ((idle {} : Client Unit).run oneStream).transitions repeatedInTime,
      t.makesLink = false := by decide +kernel
  refine ⟨hlink, by decide +kernel, ?_⟩
  exact (only_callers_wait_iff {} oneStream repeatedInTime hlink).2.1 (by decide +kernel)

/-- **Repeated wishes can pile up.** Once the link takes nothing any more and before it has
ended, each repetition of a wish waits, so it is not true that repetitions leave the queue as it
is. -/
theorem repeated_wishes_wait :
    let c := (idle {} : Client Unit).run (oneStream ++ [.manager (.turn (.refusing 1))])
    let wish : ClientEvent := .manager (.repeatWish "ticker")
    c.manager.outbox.phase = .opened ∧ c.manager.outbox.pending = [] ∧
      (c.run [wish]).manager.outbox.pending = [(Request.subscribe "ticker").withId 2] ∧
      (c.run [wish, wish]).manager.outbox.pending =
        [(Request.subscribe "ticker").withId 2, (Request.subscribe "ticker").withId 3] ∧
      ¬ ∀ (es : List ClientEvent) (stream : String),
        (((idle {} : Client Unit).run es).manager.repeatSubscription stream).outbox.pending =
          ((idle {} : Client Unit).run es).manager.outbox.pending := by
  intro c wish
  refine ⟨by decide +kernel, by decide +kernel, by decide +kernel, by decide +kernel,
    fun h => ?_⟩
  have hsame := h (oneStream ++ [.manager (.turn (.refusing 1))]) "ticker"
  revert hsame
  decide +kernel

end Client

end BookFeed.Connection
