import Mathlib.Data.List.Infix
import BookFeed.Proofs.Connection.Delivery
import BookFeed.Proofs.Connection.Ledger

set_option autoImplicit false

/-!
# Streams that several guards share

Any number of guards can be held on one stream, and the server is told about the stream only
when the first of them comes and the last of them goes. As long as no two guards with one stream
and identity are held at the same time, three records that are kept apart say the same at every
moment: which streams are wanted, which streams have listeners, and for which streams a guard is
held. And a subscription is ended at the server exactly when the last guard of its stream is
given back, by one request.

## Main definitions

* `BookFeed.Connection.Manager.unsubscriptions` — the requests so far that end a subscription.
* `BookFeed.Connection.Holding.Distinct` — no two held guards have one stream and identity.
* `BookFeed.Connection.Holding.Watched` — a guard is held on a stream.
* `BookFeed.Connection.Holding.Ends` — an event gives back the last guard of a stream.
* `BookFeed.Connection.Holding.Shared` — listeners, wanted streams and held guards go
  together.

## Main results

* `BookFeed.Connection.Manager.unsubscriptions_submit`,
  `BookFeed.Connection.Manager.unsubscriptions_turn` — what is added by a request and by
  links.
* `BookFeed.Connection.Holding.Shared.run` — a run keeps the three records together.
* `BookFeed.Connection.Holding.life_of_shared_stream` — the three records and the requests
  that end subscriptions.
-/

namespace BookFeed.Connection

open Feed

/-! ### Requests that end subscriptions -/

namespace Manager

variable {κ : Type}

/-- Whether a request ends the subscription to a stream. -/
def isUnsubscription (stream : String) (r : Request) : Bool :=
  r.method = .unsubscribe ∧ stream ∈ r.params

@[simp] theorem isUnsubscription_subscribe (stream stream' : String) :
    isUnsubscription stream (.subscribe stream') = false := by
  simp [isUnsubscription, Request.subscribe]

@[simp] theorem isUnsubscription_unsubscribe (stream stream' : String) :
    isUnsubscription stream (.unsubscribe stream') = decide (stream = stream') := by
  simp [isUnsubscription, Request.unsubscribe]

@[simp] theorem isUnsubscription_withId (stream : String) (r : Request) (id : Nat) :
    isUnsubscription stream (r.withId id) = isUnsubscription stream r :=
  rfl

/-- How many requests to end the subscription to a stream have been submitted: those that links
have taken and those that wait. -/
def unsubscriptions (m : Manager κ) (stream : String) : Nat :=
  m.ledger.countP (isUnsubscription stream)

/-- A request that is submitted is counted, whether a link takes it or not. -/
theorem unsubscriptions_submit (m : Manager κ) (r : Request) (stream : String) :
    (m.submit r).1.unsubscriptions stream =
      m.unsubscriptions stream + if isUnsubscription stream r then 1 else 0 := by
  have hstamp : isUnsubscription stream (m.outbox.stamp r) = isUnsubscription stream r :=
    isUnsubscription_withId stream r _
  unfold unsubscriptions ledger texts
  rcases m.submit_cases r with ⟨s, s', -, -, hout, hwritten⟩ | ⟨-, hout, hwritten⟩
  · simp only [hout, hwritten, List.map_append, Written.map_request_batch, List.countP_append,
      List.countP_singleton, hstamp]
    omega
  · simp only [hout, hwritten, List.countP_append, List.countP_singleton, hstamp]
    omega

/-- No link is told to end a subscription again. -/
theorem countP_replay (o : Outbox) (stream : String) :
    o.replay.countP (isUnsubscription stream) = 0 := by
  rw [List.countP_eq_zero]
  intro r hr
  obtain ⟨i, hi, rfl⟩ := List.mem_mapIdx.1 hr
  simp

/-- Links add nothing: what they take has waited or is a subscription. -/
theorem unsubscriptions_turn (m : Manager κ) (t : Turn) (stream : String) :
    (m.turn t).unsubscriptions stream = m.unsubscriptions stream := by
  cases t with
  | ready room =>
    have hreplay := countP_replay m.outbox stream
    have htake (n : Nat) : (m.outbox.replay.take n).countP (isUnsubscription stream) = 0 :=
      Nat.eq_zero_of_le_zero (hreplay ▸ (List.take_sublist n _).countP_le)
    -- what a link takes of the queue stays in the ledger, and only the replay is new
    unfold unsubscriptions ledger texts turn
    rcases m.ready_cases ⟨m.connections + 1, room⟩ with
      ⟨taken, left, hsplit, hout, hwritten⟩ | ⟨n, -, hout, hwritten⟩ |
        ⟨s', -, hout, hwritten⟩
    · simp [hout, hwritten, ← hsplit, List.countP_append]
    · simp [hout, hwritten, List.countP_append, htake]
    · simp [hout, hwritten, List.countP_append, hreplay]
  | connecting | refusing link | closed | dropped => rfl

end Manager

/-! ### Guards that share streams -/

namespace Holding

variable {κ : Type}

/-- No two guards with one stream and identity are held. -/
def Distinct (h : Holding κ) : Prop :=
  h.leases.Pairwise fun a b => a.held = true → b.held = true → a.guard ≠ b.guard

/-- A guard is held on the stream. -/
def Watched (h : Holding κ) (stream : String) : Prop :=
  ∃ l ∈ h.leases, l.held = true ∧ l.guard.stream = stream

instance (h : Holding κ) : Decidable h.Distinct := inferInstanceAs (Decidable (List.Pairwise _ _))

instance (h : Holding κ) (stream : String) : Decidable (h.Watched stream) :=
  inferInstanceAs (Decidable (∃ l ∈ h.leases, _))

/-- The event gives back the last guard that is held on the stream. -/
def Ends (h : Holding κ) (stream : String) : GuardEvent κ → Prop
  | .release n => h.Watched stream ∧ ¬ (h.release n).Watched stream
  | _ => False

instance (h : Holding κ) (stream : String) : DecidablePred (h.Ends stream)
  | .release n =>
    inferInstanceAs (Decidable (h.Watched stream ∧ ¬ (h.release n).Watched stream))
  | .subscribe _ _ => isFalse id
  | .tick _ => isFalse id
  | .frame _ => isFalse id
  | .turn _ => isFalse id

/-- A stream is watched iff some number belongs to a guard that is held on it. -/
theorem watched_iff (h : Holding κ) (stream : String) :
    h.Watched stream ↔ ∃ n g, h.Holds n g ∧ g.stream = stream := by
  constructor
  · rintro ⟨⟨g, held⟩, hl, rfl, hg⟩
    obtain ⟨n, hn⟩ := List.mem_iff_getElem?.1 hl
    exact ⟨n, g, hn, hg⟩
  · rintro ⟨n, g, hn, hg⟩
    exact ⟨⟨g, true⟩, List.mem_of_getElem? hn, rfl, hg⟩

/-- Of distinct guards, no two are held with one stream and identity. -/
theorem Distinct.eq_of_holds {h : Holding κ} (hd : h.Distinct) {n n' : Nat} {g : Guard}
    (hn : h.Holds n g) (hn' : h.Holds n' g) : n = n' := by
  obtain ⟨hlt, hget⟩ := List.getElem?_eq_some_iff.1 hn
  obtain ⟨hlt', hget'⟩ := List.getElem?_eq_some_iff.1 hn'
  have hpair := List.pairwise_iff_getElem.1 hd
  rcases Nat.lt_trichotomy n n' with hless | heq | hless
  · simpa [hget, hget'] using hpair n n' hlt hlt' hless
  · exact heq
  · simpa [hget, hget'] using hpair n' n hlt' hlt hless

/-- Listeners, wanted streams and held guards go together. -/
structure Shared (h : Holding κ) : Prop extends h.Sound where
  /-- The callback of a guard is registered as long as it is held. -/
  listening : ∀ g, (h.callback? g).isSome ↔ ∃ n, h.Holds n g
  /-- Somebody listens to each wanted stream. -/
  needed : ∀ stream ∈ h.manager.outbox.active, 0 < h.manager.registry.listenerCount stream

namespace Shared

/-- At the start there is neither a guard nor a listener, and nothing is wanted. -/
theorem new (config : Config) : (Holding.new config : Holding κ).Shared where
  toSound := .new config
  listening g := by simp [Holding.new, callback?, Registry.callback?, Registry.listeners,
    Registry.list?, Holds]
  needed stream h := by cases h

/-- Somebody listens to a stream iff a guard is held on it. -/
theorem listenerCount_pos_iff {h : Holding κ} (hs : h.Shared) (stream : String) :
    0 < h.manager.registry.listenerCount stream ↔ h.Watched stream := by
  rw [Registry.listenerCount_pos_iff, watched_iff]
  constructor
  · rintro ⟨identity, hcallback⟩
    obtain ⟨n, hn⟩ := (hs.listening ⟨stream, identity⟩).1 hcallback
    exact ⟨n, ⟨stream, identity⟩, hn, rfl⟩
  · rintro ⟨n, g, hn, rfl⟩
    exact ⟨g.identity, (hs.listening g).2 ⟨n, hn⟩⟩

/-- A stream is wanted iff a guard is held on it. -/
theorem mem_active_iff {h : Holding κ} (hs : h.Shared) (stream : String) :
    stream ∈ h.manager.outbox.active ↔ h.Watched stream := by
  rw [← hs.listenerCount_pos_iff]
  exact ⟨hs.needed stream, hs.wanted stream⟩

/-- An event of distinct guards keeps callbacks registered as long as their guards are held. -/
theorem listening_advance {h : Holding κ} (hs : h.Shared) (hd : h.Distinct) (e : GuardEvent κ)
    (g : Guard) : ((h.advance e).callback? g).isSome ↔ ∃ n, (h.advance e).Holds n g := by
  by_cases he : ∃ callback, e = .subscribe g callback
  · obtain ⟨callback, rfl⟩ := he
    have hheld : (h.advance (.subscribe g callback)).Holds h.leases.length g :=
      (h.holds_subscribe g callback _ g).2 (Or.inr ⟨rfl, rfl⟩)
    rw [advance, callback?_subscribe, if_pos rfl]
    exact iff_of_true rfl ⟨_, hheld⟩
  · rcases advance_cases hs.toSound (g := g) (e := e) fun callback heq =>
      he ⟨callback, heq⟩ with
      ⟨hsame, hcallback⟩ | ⟨k, hk, hgone, hnone⟩
    · rw [hcallback, hs.listening]
      exact exists_congr fun n => (hsame n).symm
    · -- the guard that was given back was the only one with its stream and identity
      rw [hnone]
      refine iff_of_false (by simp) ?_
      rintro ⟨n, hn⟩
      obtain ⟨hn, hne⟩ := (hgone n).1 hn
      exact hne (hd.eq_of_holds hn hk)

/-- An event keeps somebody listening to each wanted stream. -/
theorem needed_advance {h : Holding κ} (hs : h.Shared) (e : GuardEvent κ) (stream : String)
    (hactive : stream ∈ (h.advance e).manager.outbox.active) :
    0 < (h.advance e).manager.registry.listenerCount stream := by
  cases e with
  | subscribe g callback =>
    simp only [advance, manager_subscribe, Manager.mem_active_subscribe] at hactive ⊢
    rw [Manager.registry_subscribe, Registry.listenerCount_pos_iff]
    simp only [Registry.callback?_register]
    by_cases heq : stream = g.stream
    · exact ⟨g.identity, by simp [heq]⟩
    · obtain ⟨identity, hcallback⟩ := (Registry.listenerCount_pos_iff _ _).1
        (hs.needed stream (hactive.resolve_left heq))
      exact ⟨identity, by simpa [heq] using hcallback⟩
  | release n =>
    by_cases hn : ∃ g, h.Holds n g
    · obtain ⟨g, hg⟩ := hn
      simp only [advance, manager_release hg, Manager.mem_active_release] at hactive ⊢
      by_cases heq : stream = g.stream
      · exact hactive.2 heq
      · rw [Manager.registry_release, Registry.listenerCount,
          Registry.listeners_deregister hs.keyed, if_neg heq]
        exact hs.needed stream hactive.1
    · simp only [advance, release_eq_self fun g hg => hn ⟨g, hg⟩] at hactive ⊢
      exact hs.needed stream hactive
  | tick n =>
    rcases h.tick_cases n with htick | ⟨g, hg, htick⟩
    · simp only [advance, htick] at hactive ⊢
      exact hs.needed stream hactive
    · simp only [advance, htick, Manager.registry_submit,
        Manager.mem_active_submit_subscribe] at hactive ⊢
      -- the timer belongs to a guard that is held, so its stream has a listener already
      rcases hactive with rfl | hactive
      · exact (hs.listenerCount_pos_iff _).2 ((h.watched_iff _).2 ⟨n, g, hg, rfl⟩)
      · exact hs.needed stream hactive
  | frame text =>
    simp only [advance, registry_frame, outbox_frame] at hactive ⊢
    exact hs.needed stream hactive
  | turn t =>
    simp only [advance, Manager.registry_turn, Manager.active_turn] at hactive ⊢
    exact hs.needed stream hactive

/-- An event of distinct guards keeps the three records together. -/
theorem advance {h : Holding κ} (hs : h.Shared) (hd : h.Distinct) (e : GuardEvent κ) :
    (h.advance e).Shared where
  toSound := hs.toSound.advance e
  listening := hs.listening_advance hd e
  needed := hs.needed_advance e

/-- A run of guards that are distinct all along keeps the three records together. -/
theorem run (config : Config) {es : List (GuardEvent κ)}
    (hdistinct : ∀ before, before <+: es → ((Holding.new config).run before).Distinct) :
    ((Holding.new config).run es).Shared := by
  induction es using List.reverseRecOn with
  | nil => exact .new config
  | append_singleton es e ih =>
    have hbefore : ∀ before, before <+: es → ((Holding.new config).run before).Distinct :=
      fun before hpre => hdistinct before (hpre.trans (List.prefix_append es [e]))
    rw [run_concat]
    exact (ih hbefore).advance (hbefore es (List.prefix_refl es)) e

end Shared

/-- Giving back a guard ends its stream iff no guard is left on it, and no other stream. -/
theorem ends_release_iff {h : Holding κ} {n : Nat} {g : Guard} (hn : h.Holds n g)
    (stream : String) :
    h.Ends stream (.release n) ↔ stream = g.stream ∧ ¬ (h.release n).Watched stream := by
  refine and_congr_left fun hnone => ⟨fun hwatched => ?_, fun heq => ?_⟩
  · obtain ⟨k, g', hk, rfl⟩ := (h.watched_iff stream).1 hwatched
    by_contra hne
    have hkn : k ≠ n := fun heq => hne (congrArg Guard.stream ((heq ▸ hk).unique hn))
    exact hnone
      (((h.release n).watched_iff _).2 ⟨k, g', (h.holds_release n k g').2 ⟨hk, hkn⟩, rfl⟩)
  · exact (h.watched_iff stream).2 ⟨n, g, hn, heq.symm⟩

/-- Giving back a guard that is held adds a request iff nobody is left on its stream. -/
theorem unsubscriptions_release {h : Holding κ} {n : Nat} {g : Guard} (hn : h.Holds n g)
    (stream : String) :
    (h.release n).manager.unsubscriptions stream =
      h.manager.unsubscriptions stream +
        if stream = g.stream ∧ (h.release n).manager.registry.listenerCount stream = 0 then 1
        else 0 := by
  have hsame : (h.manager.deregister g.stream g.identity).1.unsubscriptions stream =
      h.manager.unsubscriptions stream := rfl
  rw [manager_release hn, Manager.registry_release, Manager.release_eq]
  by_cases heq : stream = g.stream
  · subst heq
    split
    · next hzero =>
      rw [Manager.unsubscriptions_submit, hsame]
      simp [hzero]
    · next hpos => simp [hsame, hpos]
  · split
    · rw [Manager.unsubscriptions_submit, hsame]
      simp [heq]
    · simp [hsame, heq]

/-- An event of distinct guards adds a request to end a subscription iff it gives back the last
guard of the stream. -/
theorem Shared.unsubscriptions_advance {h : Holding κ} (hs : h.Shared) (hd : h.Distinct)
    (stream : String) (e : GuardEvent κ) :
    (h.advance e).manager.unsubscriptions stream =
      h.manager.unsubscriptions stream + if h.Ends stream e then 1 else 0 := by
  cases e with
  | subscribe g callback =>
    have hsame : (h.manager.register g.stream g.identity callback).1.unsubscriptions stream =
      h.manager.unsubscriptions stream := rfl
    simp only [Holding.advance, manager_subscribe, Manager.subscribe,
      Manager.unsubscriptions_submit, hsame]
    simp [Ends]
  | release n =>
    by_cases hn : ∃ g, h.Holds n g
    · obtain ⟨g, hg⟩ := hn
      have hafter := (hs.advance hd (.release n)).listenerCount_pos_iff stream
      simp only [Holding.advance, unsubscriptions_release hg, ends_release_iff hg] at hafter ⊢
      simp only [← hafter, Nat.pos_iff_ne_zero, not_not]
    · have hself := release_eq_self fun g hg => hn ⟨g, hg⟩
      simp [Holding.advance, Ends, hself]
  | tick n =>
    rcases h.tick_cases n with htick | ⟨g, -, htick⟩
    · simp [Holding.advance, htick, Ends]
    · simp only [Holding.advance, htick, Manager.unsubscriptions_submit]
      simp [Ends]
  | frame text =>
    simp [Holding.advance, Manager.unsubscriptions, Manager.ledger, Manager.texts, Ends]
  | turn t => simp [Holding.advance, Manager.unsubscriptions_turn, Ends]

/-- **The life of a shared stream.** Guards are opened and given back, their timers tick, texts
come in, and links come, stop taking texts and go, in any order; at no moment are two guards
with one stream and identity held. Then at every moment a stream is wanted iff a guard is held
on it, and it has listeners iff a guard is held on it. A request to end the subscription to a
stream is submitted by an event iff the event gives back the last guard that is held on the
stream, and then by one request.

**Proof sketch.** The callback of a guard is registered exactly as long as it is held: no other
held guard has its stream and identity, so nothing else removes the callback. Opening a guard
makes its stream wanted and listened to; giving one back makes it unwanted exactly if nobody
listens any more; a timer that ticks belongs to a held guard, whose stream is wanted already;
and links change neither. -/
theorem life_of_shared_stream (config : Config) (es : List (GuardEvent κ))
    (hdistinct : ∀ before, before <+: es → ((Holding.new config).run before).Distinct)
    (stream : String) :
    let now := (Holding.new config).run es
    (stream ∈ now.manager.outbox.active ↔ now.Watched stream) ∧
      (0 < now.manager.registry.listenerCount stream ↔ now.Watched stream) ∧
      ∀ e, (now.advance e).manager.unsubscriptions stream =
        now.manager.unsubscriptions stream + if now.Ends stream e then 1 else 0 := by
  intro now
  have hshared : now.Shared := Shared.run config hdistinct
  have hnow : now.Distinct := hdistinct es (List.prefix_refl es)
  exact ⟨hshared.mem_active_iff stream, hshared.listenerCount_pos_iff stream,
    hshared.unsubscriptions_advance hnow stream⟩

/-- Two guards share a stream, and the first one is given back and opened again, while a link
comes, stops taking texts and goes. -/
private def sharedRun : List (GuardEvent String) :=
  [.subscribe ⟨"depth@SOL_USDC", "first"⟩ "first", .turn (.ready (some 2)),
    .subscribe ⟨"depth@SOL_USDC", "second"⟩ "second", .release 0, .tick 1, .turn .dropped,
    .subscribe ⟨"depth@SOL_USDC", "first"⟩ "first", .release 1]

/-- The guard that is left is the last one of its stream: giving it back ends the
subscription. -/
theorem life_of_shared_stream_reopened :
    let now := (Holding.new {}).run sharedRun
    (∀ before, before <+: sharedRun → ((Holding.new {}).run before).Distinct) ∧
      now.Watched "depth@SOL_USDC" ∧ now.Ends "depth@SOL_USDC" (.release 2) ∧
      "depth@SOL_USDC" ∈ now.manager.outbox.active ∧
      0 < now.manager.registry.listenerCount "depth@SOL_USDC" ∧
      (now.advance (.release 2)).manager.unsubscriptions "depth@SOL_USDC" =
        now.manager.unsubscriptions "depth@SOL_USDC" + 1 := by
  intro now
  have hdistinct : ∀ before, before <+: sharedRun → ((Holding.new {}).run before).Distinct := by
    intro before hpre
    have hall : ∀ before ∈ sharedRun.inits, ((Holding.new {}).run before).Distinct := by
      decide +kernel
    exact hall before ((List.mem_inits _ _).2 hpre)
  have hwatched : now.Watched "depth@SOL_USDC" := by decide +kernel
  have hends : now.Ends "depth@SOL_USDC" (.release 2) := by decide +kernel
  obtain ⟨hactive, hcount, hstep⟩ :=
    life_of_shared_stream {} sharedRun hdistinct "depth@SOL_USDC"
  refine ⟨hdistinct, hwatched, hends, hactive.2 hwatched, hcount.2 hwatched, ?_⟩
  rw [hstep, if_pos hends]

end Holding

end BookFeed.Connection
