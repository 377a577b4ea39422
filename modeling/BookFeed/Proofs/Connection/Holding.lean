import BookFeed.Connection.Subscription
import BookFeed.Proofs.Connection.Handling
import BookFeed.Proofs.Connection.Wanted
import BookFeed.Proofs.Feed.Listeners

set_option autoImplicit false

/-!
# Guards over time

A manager together with the guards that it has handed out, in the order in which they were
opened, and all that callbacks have been run for. Guards are opened and given back in any order,
their timers tick while they are held, texts come in, and links come and go. Streams and
identities may repeat. What a callback does to guards happens after its event has been
dispatched, so between two events of the list.

## Main definitions

* `BookFeed.Connection.Holding` — a manager and its guards.
* `BookFeed.Connection.GuardEvent`, `BookFeed.Connection.Holding.run` — what happens to them.
* `BookFeed.Connection.Holding.Holds` — a guard has been opened and not been given back.
* `BookFeed.Connection.Holding.Sound` — a stream that somebody listens to is wanted.

## Main results

* `BookFeed.Connection.Holding.received_frame` — a text runs the callbacks of its stream.
* `BookFeed.Connection.Holding.Sound.run` — a run keeps streams wanted while somebody listens.
* `BookFeed.Connection.Holding.callback?_subscribe`,
  `BookFeed.Connection.Holding.callback?_release` — opening and giving back decide what is run
  for the identity of the guard.
-/

namespace BookFeed.Connection

open Feed

/-- A guard that has been handed out. -/
structure Lease where
  /-- The guard. -/
  guard : Guard
  /-- Whether it has not been given back yet. -/
  held : Bool
deriving DecidableEq, Repr

/-- A manager, the guards that it has handed out, and what callbacks have been run for. -/
structure Holding (κ : Type) where
  /-- The manager. -/
  manager : Manager κ := {}
  /-- The guards, the oldest first. -/
  leases : List Lease := []
  /-- The callbacks that have been run and their events, the oldest first. -/
  received : List (κ × Event) := []

/-- What happens to a manager and its guards. -/
inductive GuardEvent (κ : Type) where
  /-- A guard is opened. -/
  | subscribe (g : Guard) (callback : κ)
  /-- The guard with this number is given back, if it is still held. -/
  | release (n : Nat)
  /-- The timer of the guard with this number ticks, if it is still held. -/
  | tick (n : Nat)
  /-- A text comes in. -/
  | frame (text : String)
  /-- The link changes. -/
  | turn (t : Turn)

namespace Holding

variable {κ : Type}

/-! ### Steps -/

/-- A manager that has handed out no guards. -/
def new (config : Config) : Holding κ := { manager := { config := config } }

/-- Open a guard, which gets the next number. -/
def subscribe (h : Holding κ) (g : Guard) (callback : κ) : Holding κ :=
  let (manager, guard) := h.manager.subscribe g.stream g.identity callback
  { h with manager := manager, leases := h.leases ++ [⟨guard, true⟩] }

/-- Give back the guard with a number, if it is still held. -/
def release (h : Holding κ) (n : Nat) : Holding κ :=
  match h.leases[n]? with
  | some ⟨g, true⟩ =>
    { h with manager := h.manager.release g, leases := h.leases.set n ⟨g, false⟩ }
  | _ => h

/-- The timer of the guard with a number, which stops when the guard is given back. -/
def tick (h : Holding κ) (n : Nat) : Holding κ :=
  match h.leases[n]? with
  | some ⟨g, true⟩ => { h with manager := h.manager.repeatSubscription g.stream }
  | _ => h

/-- Run a callback: it receives the event. -/
def deliver (callback : κ) (e : Event) : StateM (Holding κ) Unit :=
  modify fun h => { h with received := h.received ++ [(callback, e)] }

/-- Handle a text. -/
def frame (h : Holding κ) (text : String) : Holding κ :=
  let handling : StateM (Holding κ) Unit :=
    Manager.handle (do return (← get).manager)
      (fun change => modify fun h => { h with manager := change h.manager }) deliver text
  (handling.run h).2

/-- A manager and its guards after an event. -/
def advance (h : Holding κ) : GuardEvent κ → Holding κ
  | .subscribe g callback => h.subscribe g callback
  | .release n => h.release n
  | .tick n => h.tick n
  | .frame text => h.frame text
  | .turn t => { h with manager := h.manager.turn t }

/-- A manager and its guards after some events. -/
def run (h : Holding κ) (es : List (GuardEvent κ)) : Holding κ := es.foldl advance h

/-- One more event. -/
theorem run_concat (h : Holding κ) (es : List (GuardEvent κ)) (e : GuardEvent κ) :
    h.run (es ++ [e]) = (h.run es).advance e := by
  simp [run]

/-- Whether a guard has the number `n` and has not been given back. -/
def Holds (h : Holding κ) (n : Nat) (g : Guard) : Prop := h.leases[n]? = some ⟨g, true⟩

instance (h : Holding κ) (n : Nat) (g : Guard) : Decidable (h.Holds n g) :=
  inferInstanceAs (Decidable (h.leases[n]? = some ⟨g, true⟩))

/-- What is run for the stream and the identity of a guard. -/
def callback? (h : Holding κ) (g : Guard) : Option κ :=
  h.manager.registry.callback? g.stream g.identity

/-! ### Texts -/

/-- Callbacks that are run one after the other all receive the event. -/
theorem foldl_deliver (deliveries : List (κ × Event)) (h : Holding κ) :
    deliveries.foldl (fun h d => { h with received := h.received ++ [(d.1, d.2)] }) h =
      { h with received := h.received ++ deliveries } := by
  induction deliveries generalizing h with
  | nil => simp
  | cons d ds ih =>
    rw [List.foldl_cons, ih]
    simp

/-- Handling a text counts, and runs the callbacks of its stream. -/
theorem exists_frame_eq (h : Holding κ) (text : String) :
    ∃ x, h.frame text =
      { h with
        manager := h.manager.received.tally x
        received := h.received ++ h.manager.deliveries text } := by
  refine ⟨h.manager.received.outcome text, ?_⟩
  have hrun := Manager.run_handle (fun h : Holding κ => h.manager)
    (fun change h => { h with manager := change h.manager })
    (fun callback e h => { h with received := h.received ++ [(callback, e)] }) text h
  rw [foldl_deliver] at hrun
  exact congrArg Prod.snd hrun

/-- A text leaves the guards as they are. -/
@[simp] theorem leases_frame (h : Holding κ) (text : String) :
    (h.frame text).leases = h.leases := by
  obtain ⟨x, hx⟩ := h.exists_frame_eq text
  rw [hx]

/-- A text leaves the listeners as they are. -/
@[simp] theorem registry_frame (h : Holding κ) (text : String) :
    (h.frame text).manager.registry = h.manager.registry := by
  obtain ⟨x, hx⟩ := h.exists_frame_eq text
  rw [hx]
  exact Manager.registry_tally _ x

/-- A text leaves queue, wanted streams and link as they are. -/
@[simp] theorem outbox_frame (h : Holding κ) (text : String) :
    (h.frame text).manager.outbox = h.manager.outbox := by
  obtain ⟨x, hx⟩ := h.exists_frame_eq text
  rw [hx]
  exact Manager.outbox_tally _ x

/-- A text leaves the record of what links have taken as it is. -/
@[simp] theorem written_frame (h : Holding κ) (text : String) :
    (h.frame text).manager.written = h.manager.written := by
  obtain ⟨x, hx⟩ := h.exists_frame_eq text
  rw [hx]
  exact Manager.written_tally _ x

/-- The callbacks of its stream receive the event of a text. -/
theorem received_frame (h : Holding κ) (text : String) :
    (h.frame text).received = h.received ++ h.manager.deliveries text := by
  obtain ⟨x, hx⟩ := h.exists_frame_eq text
  rw [hx]

/-! ### Guards -/

/-- Opening a guard opens a subscription. -/
theorem manager_subscribe (h : Holding κ) (g : Guard) (callback : κ) :
    (h.subscribe g callback).manager =
      (h.manager.subscribe g.stream g.identity callback).1 :=
  rfl

/-- A number belongs to one guard. -/
theorem Holds.unique {h : Holding κ} {n : Nat} {g g' : Guard} (hn : h.Holds n g)
    (hn' : h.Holds n g') : g = g' := by
  have hsame : (some ⟨g, true⟩ : Option Lease) = some ⟨g', true⟩ := hn.symm.trans hn'
  simpa using hsame

/-- A guard that is opened is held, and the others are held as before. -/
theorem holds_subscribe (h : Holding κ) (g : Guard) (callback : κ) (n : Nat) (g' : Guard) :
    (h.subscribe g callback).Holds n g' ↔ h.Holds n g' ∨ (n = h.leases.length ∧ g' = g) := by
  have hleases : (h.subscribe g callback).leases = h.leases ++ [⟨g, true⟩] := rfl
  unfold Holds
  rw [hleases]
  rcases Nat.lt_trichotomy n h.leases.length with hlt | rfl | hgt
  · rw [List.getElem?_append_left hlt]
    simp [Nat.ne_of_lt hlt]
  · simp [eq_comm]
  · rw [List.getElem?_eq_none (by simp; omega), List.getElem?_eq_none (by omega)]
    simp [Nat.ne_of_gt hgt]

/-- A guard that is given back is not held any more, and the others are held as before. -/
theorem holds_release (h : Holding κ) (k n : Nat) (g : Guard) :
    (h.release k).Holds n g ↔ h.Holds n g ∧ n ≠ k := by
  unfold release
  split
  · next g' hk =>
    unfold Holds
    dsimp only
    rw [List.getElem?_set]
    by_cases hn : k = n
    · rw [if_pos hn]
      split <;> simp [hn]
    · simp [hn, Ne.symm hn]
  · next hk =>
    refine ⟨fun hn => ⟨hn, fun heq => hk g ?_⟩, fun hn => hn.1⟩
    rw [← heq]
    exact hn

/-- A guard that is not held cannot be given back. -/
theorem release_eq_self {h : Holding κ} {n : Nat} (hn : ∀ g, ¬ h.Holds n g) :
    h.release n = h := by
  unfold release
  split
  · next g hg => exact absurd hg (hn g)
  · rfl

/-- Giving back a guard that is held releases it. -/
theorem manager_release {h : Holding κ} {n : Nat} {g : Guard} (hn : h.Holds n g) :
    (h.release n).manager = h.manager.release g := by
  unfold release
  rw [show h.leases[n]? = some ⟨g, true⟩ from hn]

/-- A timer does nothing, or it repeats the wish for the stream of a guard that is held. -/
theorem tick_cases (h : Holding κ) (n : Nat) :
    h.tick n = h ∨ ∃ g, h.Holds n g ∧
      h.tick n = { h with manager := (h.manager.submit (.subscribe g.stream)).1 } := by
  unfold tick
  split
  · next g hg =>
    simp only [Manager.repeatSubscription]
    split
    · exact Or.inr ⟨g, hg, rfl⟩
    · exact Or.inl rfl
  · exact Or.inl rfl

end Holding

/-! ### Listeners and wanted streams -/

namespace Manager

variable {κ : Type}

/-- Opening a guard adds its listener. -/
theorem registry_subscribe (m : Manager κ) (g : Guard) (callback : κ) :
    (m.subscribe g.stream g.identity callback).1.registry =
      (m.registry.register g.stream g.identity callback).1 := by
  simp [subscribe, register]

/-- Giving back a guard removes its listener and, if nobody is left, ends the subscription. -/
theorem release_eq (m : Manager κ) (g : Guard) :
    m.release g =
      if (m.registry.deregister g.stream g.identity).1.listenerCount g.stream = 0 then
        ((m.deregister g.stream g.identity).1.submit (.unsubscribe g.stream)).1
      else (m.deregister g.stream g.identity).1 :=
  rfl

/-- Giving back a guard removes the listener with its identity. -/
theorem registry_release (m : Manager κ) (g : Guard) :
    (m.release g).registry = (m.registry.deregister g.stream g.identity).1 := by
  rw [release_eq]
  split
  · rw [registry_submit]
    rfl
  · rfl

/-- Opening a guard makes its stream wanted. -/
theorem mem_active_subscribe (m : Manager κ) (g : Guard) (callback : κ) (stream : String) :
    stream ∈ (m.subscribe g.stream g.identity callback).1.outbox.active ↔
      stream = g.stream ∨ stream ∈ m.outbox.active := by
  rw [subscribe, mem_active_submit_subscribe]
  rfl

/-- Giving back a guard makes its stream unwanted if nobody listens to it then. -/
theorem mem_active_release (m : Manager κ) (g : Guard) (stream : String) :
    stream ∈ (m.release g).outbox.active ↔
      stream ∈ m.outbox.active ∧
        (stream = g.stream → 0 < (m.release g).registry.listenerCount stream) := by
  have hactive : (m.deregister g.stream g.identity).1.outbox.active = m.outbox.active := rfl
  rw [registry_release, release_eq]
  split
  · next hzero =>
    rw [mem_active_submit_unsubscribe, hactive]
    by_cases heq : stream = g.stream
    · simp [heq, hzero]
    · simp [heq]
  · next hpos =>
    rw [hactive]
    refine ⟨fun hmem => ⟨hmem, fun heq => ?_⟩, fun hmem => hmem.1⟩
    rw [heq]
    exact Nat.pos_of_ne_zero hpos

end Manager

namespace Holding

variable {κ : Type}

/-- A stream that somebody listens to is wanted. -/
structure Sound (h : Holding κ) : Prop where
  /-- No stream has two lists of listeners. -/
  keyed : h.manager.registry.Keyed
  /-- A stream with listeners is wanted. -/
  wanted : ∀ stream, 0 < h.manager.registry.listenerCount stream →
    stream ∈ h.manager.outbox.active

namespace Sound

/-- At the start nobody listens. -/
theorem new (config : Config) : (Holding.new config : Holding κ).Sound where
  keyed := List.nodup_nil
  wanted _ h := absurd h (Nat.lt_irrefl 0)

/-- Opening a guard keeps streams wanted while somebody listens. -/
theorem subscribe {h : Holding κ} (hs : h.Sound) (g : Guard) (callback : κ) :
    (h.subscribe g callback).Sound where
  keyed := by
    rw [manager_subscribe, Manager.registry_subscribe]
    exact hs.keyed.register _ _ _
  wanted stream hcount := by
    rw [manager_subscribe] at hcount ⊢
    rw [Manager.mem_active_subscribe]
    by_cases heq : stream = g.stream
    · exact Or.inl heq
    · rw [Manager.registry_subscribe, Registry.listenerCount, Registry.listeners_register,
        if_neg heq] at hcount
      exact Or.inr (hs.wanted stream hcount)

/-- Giving back a guard keeps streams wanted while somebody listens. -/
theorem release {h : Holding κ} (hs : h.Sound) (n : Nat) : (h.release n).Sound := by
  by_cases hn : ∃ g, h.Holds n g
  · obtain ⟨g, hg⟩ := hn
    refine ⟨?_, fun stream hcount => ?_⟩
    · rw [manager_release hg, Manager.registry_release]
      exact hs.keyed.deregister _ _
    · rw [manager_release hg] at hcount ⊢
      rw [Manager.mem_active_release]
      refine ⟨hs.wanted stream ?_, fun _ => hcount⟩
      rw [Manager.registry_release, Registry.listenerCount,
        Registry.listeners_deregister hs.keyed] at hcount
      split at hcount
      · next heq =>
        rw [heq]
        exact Nat.lt_of_lt_of_le hcount (List.length_filter_le _ _)
      · exact hcount
  · rw [release_eq_self fun g hg => hn ⟨g, hg⟩]
    exact hs

/-- An event keeps streams wanted while somebody listens. -/
theorem advance {h : Holding κ} (hs : h.Sound) (e : GuardEvent κ) : (h.advance e).Sound := by
  cases e with
  | subscribe g callback => exact hs.subscribe g callback
  | release n => exact hs.release n
  | tick n =>
    rcases h.tick_cases n with htick | ⟨g, -, htick⟩
    · simp only [Holding.advance, htick]
      exact hs
    · simp only [Holding.advance, htick]
      refine ⟨by simpa using hs.keyed, fun stream hcount => ?_⟩
      rw [Manager.registry_submit] at hcount
      rw [Manager.mem_active_submit_subscribe]
      exact Or.inr (hs.wanted stream hcount)
  | frame text =>
    refine ⟨by simpa [Holding.advance] using hs.keyed, fun stream hcount => ?_⟩
    simp only [Holding.advance, registry_frame, outbox_frame] at hcount ⊢
    exact hs.wanted stream hcount
  | turn t =>
    refine ⟨by simpa [Holding.advance] using hs.keyed, fun stream hcount => ?_⟩
    simp only [Holding.advance, Manager.registry_turn, Manager.active_turn] at hcount ⊢
    exact hs.wanted stream hcount

/-- A run keeps streams wanted while somebody listens. -/
theorem run {h : Holding κ} (hs : h.Sound) (es : List (GuardEvent κ)) : (h.run es).Sound := by
  induction es using List.reverseRecOn with
  | nil => exact hs
  | append_singleton es e ih =>
    rw [run_concat]
    exact ih.advance e

end Sound

/-- Opening a guard decides what is run for its identity. -/
theorem callback?_subscribe (h : Holding κ) (g : Guard) (callback : κ) (g' : Guard) :
    (h.subscribe g callback).callback? g' = if g' = g then some callback else h.callback? g' := by
  unfold callback?
  rw [manager_subscribe, Manager.registry_subscribe, Registry.callback?_register]
  cases g
  cases g'
  simp

/-- Giving back a guard ends what is run for its identity, whoever opened it last. -/
theorem callback?_release {h : Holding κ} (hs : h.Sound) {n : Nat} {g : Guard} (hn : h.Holds n g)
    (g' : Guard) : (h.release n).callback? g' = if g' = g then none else h.callback? g' := by
  unfold callback?
  rw [manager_release hn, Manager.registry_release, Registry.callback?_deregister hs.keyed]
  cases g
  cases g'
  simp

end Holding

end BookFeed.Connection
