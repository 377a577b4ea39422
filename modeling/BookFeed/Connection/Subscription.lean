import BookFeed.Connection.Manager

set_option autoImplicit false

/-!
# Subscriptions

A subscription is a listener together with the wish to get its stream from the server. Whoever
opens one holds a guard and gives it back when the subscription should end; the server is told
only when the last listener of the stream goes. While the guard is held, the wish is repeated at
regular intervals over an open link.

Opening, releasing and repeating consist of steps between which others can act.

## Main definitions

* `BookFeed.Connection.Guard` — the proof of a subscription.
* `BookFeed.Connection.Manager.subscribe`, `BookFeed.Connection.Manager.release`,
  `BookFeed.Connection.Manager.repeatSubscription` — the three operations.
* `BookFeed.Connection.Pending` — an operation between two of its steps.
-/

namespace BookFeed.Connection

open Feed

/-- The proof of a subscription. -/
structure Guard where
  /-- The stream. -/
  stream : String
  /-- The identity of the listener. -/
  identity : String
deriving DecidableEq, Repr

namespace Manager

variable {κ : Type}

/-! ### Whole operations -/

/-- Open a subscription. -/
def subscribe (m : Manager κ) (stream identity : String) (callback : κ) : Manager κ × Guard :=
  let (m, _) := m.register stream identity callback
  let (m, _) := m.submit (.subscribe stream)
  (m, ⟨stream, identity⟩)

/-- End a subscription. The listener that is removed is the one with the guard's identity,
whoever registered it last. -/
def release (m : Manager κ) (g : Guard) : Manager κ :=
  let (m, _) := m.deregister g.stream g.identity
  if m.registry.listenerCount g.stream = 0 then (m.submit (.unsubscribe g.stream)).1 else m

/-- Repeat the wish for a stream, if there is a link. -/
def repeatSubscription (m : Manager κ) (stream : String) : Manager κ :=
  if m.outbox.isOpen then (m.submit (.subscribe stream)).1 else m

end Manager

/-! ### Operations in steps -/

/-- What an operation does next. -/
inductive Pending (κ : Type) where
  /-- Opening: add the listener. -/
  | register (g : Guard) (callback : κ)
  /-- Opening: ask for the stream. -/
  | ask (g : Guard)
  /-- Releasing: remove the listener. -/
  | deregister (g : Guard)
  /-- Releasing: count the listeners that are left. -/
  | count (g : Guard)
  /-- Releasing: nobody was left, so tell the server. -/
  | tell (g : Guard)
  /-- Repeating: look whether there is a link. -/
  | look (stream : String)
  /-- Repeating: there was one, so ask again. -/
  | askAgain (stream : String)

/-- Do one step of an operation; the answer is what it does next, if it is not finished. -/
def Pending.step {κ : Type} (m : Manager κ) : Pending κ → Manager κ × Option (Pending κ)
  | .register g callback => ((m.register g.stream g.identity callback).1, some (.ask g))
  | .ask g => ((m.submit (.subscribe g.stream)).1, none)
  | .deregister g => ((m.deregister g.stream g.identity).1, some (.count g))
  | .count g => (m, if m.registry.listenerCount g.stream = 0 then some (.tell g) else none)
  | .tell g => ((m.submit (.unsubscribe g.stream)).1, none)
  | .look stream => (m, if m.outbox.isOpen then some (.askAgain stream) else none)
  | .askAgain stream => ((m.submit (.subscribe stream)).1, none)

end BookFeed.Connection
