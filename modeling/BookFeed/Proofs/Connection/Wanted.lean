import Mathlib.Tactic.Tauto
import BookFeed.Proofs.Connection.Run

set_option autoImplicit false

/-!
# Wanted streams

Only requests change which streams are wanted, and only those that they name. Whatever becomes
of a request and of links, the listeners stay.

## Main results

* `BookFeed.Connection.Outbox.mem_track`, `BookFeed.Connection.Manager.mem_active_submit` — a
  request changes the wanted streams that it names.
* `BookFeed.Connection.Manager.mem_active_submit_subscribe`,
  `BookFeed.Connection.Manager.mem_active_submit_unsubscribe` — the same for the requests of
  guards.
* `BookFeed.Connection.Manager.active_turn` — links do not change the wanted streams.
* `BookFeed.Connection.Manager.registry_submit`, `BookFeed.Connection.Manager.registry_turn` —
  neither requests nor links change the listeners.
-/

namespace BookFeed.Connection

open Feed

namespace Outbox

/-- Putting a text into an ascending list. -/
theorem mem_insertSorted {s t : String} {ts : List String} :
    t ∈ insertSorted s ts ↔ t = s ∨ t ∈ ts := by
  induction ts with
  | nil => simp [insertSorted]
  | cons h hs ih =>
    unfold insertSorted
    split
    · next heq => simp [heq]
    · split
      · simp
      · rw [List.mem_cons, ih, List.mem_cons]
        tauto

/-- A request decides about the streams that it names. -/
theorem mem_track (active : List String) (r : Request) (stream : String) :
    stream ∈ track active r ↔
      if stream ∈ r.params then r.method = .subscribe else stream ∈ active := by
  obtain ⟨method, params, id⟩ := r
  simp only [track]
  induction params generalizing active with
  | nil => simp
  | cons p ps ih =>
    rw [List.foldl_cons, ih]
    by_cases hps : stream ∈ ps
    · simp [hps]
    · by_cases hp : stream = p <;> cases method <;> simp [hps, hp, mem_insertSorted]

end Outbox

namespace Manager

variable {κ : Type}

theorem active_submit (m : Manager κ) (r : Request) :
    (m.submit r).1.outbox.active = Outbox.track m.outbox.active (m.outbox.stamp r) := by
  rcases m.submit_cases r with ⟨s, s', -, -, hout, -⟩ | ⟨-, hout, -⟩ <;> rw [hout]

/-- A request decides about the wanted streams that it names, whether a link takes it or not. -/
theorem mem_active_submit (m : Manager κ) (r : Request) (stream : String) :
    stream ∈ (m.submit r).1.outbox.active ↔
      if stream ∈ r.params then r.method = .subscribe else stream ∈ m.outbox.active := by
  rw [active_submit, Outbox.mem_track]
  rfl

/-- Asking for a stream makes it wanted, and no other one. -/
theorem mem_active_submit_subscribe (m : Manager κ) (wish stream : String) :
    stream ∈ (m.submit (.subscribe wish)).1.outbox.active ↔
      stream = wish ∨ stream ∈ m.outbox.active := by
  rw [mem_active_submit]
  by_cases h : stream = wish <;> simp [h, Request.subscribe]

/-- Ending a subscription makes its stream unwanted, and no other one. -/
theorem mem_active_submit_unsubscribe (m : Manager κ) (wish stream : String) :
    stream ∈ (m.submit (.unsubscribe wish)).1.outbox.active ↔
      stream ≠ wish ∧ stream ∈ m.outbox.active := by
  rw [mem_active_submit]
  by_cases h : stream = wish <;> simp [h, Request.unsubscribe]

/-- A request leaves the listeners as they are. -/
@[simp] theorem registry_submit (m : Manager κ) (r : Request) :
    (m.submit r).1.registry = m.registry := by
  simp only [submit]
  split <;> rfl

/-- Links do not change which streams are wanted. -/
@[simp] theorem active_turn (m : Manager κ) (t : Turn) :
    (m.turn t).outbox.active = m.outbox.active := by
  cases t with
  | ready room =>
    have hcases := m.ready_cases ⟨m.connections + 1, room⟩
    rcases hcases with ⟨_, _, -, hout, -⟩ | ⟨_, -, hout, -⟩ | ⟨_, -, hout, -⟩ <;>
      simp [turn, hout]
  | connecting | refusing link | closed | dropped => rfl

/-- Links leave the listeners as they are. -/
@[simp] theorem registry_turn (m : Manager κ) (t : Turn) :
    (m.turn t).registry = m.registry := by
  cases t <;> rfl

/-- Transitions do not change the listeners. -/
theorem registry_advance (m : Manager κ) (t : Transition) :
    (m.advance t).registry = m.registry := by
  rcases m.advance_cases t with ⟨h, -⟩ | ⟨r, h, -⟩ | ⟨turn, h, -⟩
  · rw [h]
  · rw [h, registry_submit]
  · rw [h, registry_turn]

end Manager

end BookFeed.Connection
