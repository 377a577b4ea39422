import BookFeed.Feed.Error
import BookFeed.Text.Quoted

set_option autoImplicit false

/-!
# Who listens to which stream

A registry holds, for each stream, listeners in the order in which they came. A listener is
known by its identity: registering an identity again puts the new callback in the place of the
old one. Removing a listener takes two steps, and others may act between them: first the
listener goes, then the stream goes if nobody listens to it at that moment.

An event is dispatched to a copy of the list, so what a callback does to the registry changes
later dispatches only.

## Main definitions

* `BookFeed.Feed.Registry` — streams and their listeners.
* `BookFeed.Feed.Registry.listeners` — the listeners of a stream, in order.
* `BookFeed.Feed.Registry.register`, `BookFeed.Feed.Registry.deregister` — adding and
  removing.
* `BookFeed.Feed.Registry.removeListener`, `BookFeed.Feed.Registry.dropIfEmpty` — the two
  steps of removing.
* `BookFeed.Feed.Registry.dispatch` — running the callbacks of a stream.
-/

namespace BookFeed.Feed

/-- Somebody who listens to a stream. -/
structure Listener (κ : Type) where
  /-- Who it is. -/
  identity : String
  /-- What is run for each event. -/
  callback : κ

/-- Streams and their listeners. -/
structure Registry (κ : Type) where
  /-- The streams that have a list, each once. -/
  streams : List (String × List (Listener κ)) := []

namespace Registry

variable {κ : Type}

/-! ### Looking -/

/-- The list of a stream, if it has one. -/
def list? (r : Registry κ) (stream : String) : Option (List (Listener κ)) :=
  (r.streams.find? fun e => e.1 == stream).map (·.2)

/-- The listeners of a stream, in order. -/
def listeners (r : Registry κ) (stream : String) : List (Listener κ) :=
  (r.list? stream).getD []

/-- How many listeners a stream has. -/
def listenerCount (r : Registry κ) (stream : String) : Nat := (r.listeners stream).length

/-- Whether a listener of a stream has this identity. -/
def isRegistered (r : Registry κ) (stream identity : String) : Bool :=
  (r.listeners stream).any (·.identity == identity)

/-- The callbacks of a stream, in order. -/
def callbacks (r : Registry κ) (stream : String) : List κ :=
  (r.listeners stream).map (·.callback)

/-- Whether no stream has a list. -/
def isEmpty (r : Registry κ) : Bool := r.streams.isEmpty

/-! ### Adding -/

/-- Put a listener into a list: in the place of the one with its identity, or at the end. -/
def enter (l : Listener κ) : List (Listener κ) → List (Listener κ)
  | [] => [l]
  | h :: hs => if h.identity == l.identity then l :: hs else h :: enter l hs

/-- Change the list of a stream; a stream without one gets one at the end. -/
def amend (stream : String) (f : List (Listener κ) → List (Listener κ)) :
    List (String × List (Listener κ)) → List (String × List (Listener κ))
  | [] => [(stream, f [])]
  | e :: es => if e.1 == stream then (e.1, f e.2) :: es else e :: amend stream f es

/-- Add a listener to a stream, and say whether its identity was there before. -/
def register (r : Registry κ) (stream identity : String) (callback : κ) : Registry κ × Bool :=
  (⟨amend stream (enter ⟨identity, callback⟩) r.streams⟩, r.isRegistered stream identity)

/-! ### Removing -/

/-- The first step of removing: the listener goes, and its list stays even if it is empty. The
answer is whether it was there. -/
def removeListener (r : Registry κ) (stream identity : String) : Registry κ × Bool :=
  (⟨r.streams.map fun e =>
      if e.1 == stream then (e.1, e.2.filter (·.identity != identity)) else e⟩,
    r.isRegistered stream identity)

/-- The second step of removing: the list of a stream goes if it is empty. -/
def dropIfEmpty (r : Registry κ) (stream : String) : Registry κ :=
  ⟨r.streams.filter fun e => !(e.1 == stream && e.2.isEmpty)⟩

/-- Remove a listener from a stream, and say whether it was there. -/
def deregister (r : Registry κ) (stream identity : String) : Registry κ × Bool :=
  let (r, removed) := r.removeListener stream identity
  (r.dropIfEmpty stream, removed)

/-! ### Dispatching -/

/-- Run the callbacks that a stream has now, in order, and count them. Nobody listening is an
error. What the callbacks do to a registry in the state of `m` does not change the list. -/
def dispatch {m : Type → Type} [Monad m] (r : Registry κ) (stream : String)
    (run : κ → m Unit) :
    m (Except UnknownStream Nat) :=
  match r.callbacks stream with
  | [] => return .error ⟨stream⟩
  | cs => do
    cs.forM run
    return .ok cs.length

/-! ### Showing -/

/-- Quoted texts with commas between them. -/
def quotedList (ss : List String) : String :=
  ", ".intercalate (ss.map fun s => String.ofList (Text.quote s.toList))

/-- A stream and the identities of its listeners, for messages. -/
def entryText (e : String × List (Listener κ)) : String :=
  quotedList [e.1] ++ ": [" ++ quotedList (e.2.map (·.identity)) ++ "]"

/-- The registry for messages. -/
def description (r : Registry κ) : String :=
  "\x7b" ++ ", ".intercalate (r.streams.map entryText) ++ "\x7d"

end Registry

end BookFeed.Feed
