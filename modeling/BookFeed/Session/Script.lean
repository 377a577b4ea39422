import BookFeed.Connection.Manager

set_option autoImplicit false

/-!
# Scripted callbacks

In a session a callback is either the handler of a view or a script: when it is run it makes a
note of the event and then does a list of actions, making a note of each result.

## Main definitions

* `BookFeed.Session.Script`, `BookFeed.Session.Action` — what a scripted callback does.
* `BookFeed.Session.Callback` — a callback of a session.
* `BookFeed.Session.Note` — what is noted.
-/

namespace BookFeed.Session

open Feed

mutual

/-- A scripted callback: its name in the notes, and what it does. -/
inductive Script where
  /-- A name and actions. -/
  | mk (tag : String) (actions : List Action)

/-- What a scripted callback can do. -/
inductive Action where
  /-- Add a listener. -/
  | register (stream identity : String) (script : Script)
  /-- Remove a listener. -/
  | deregister (stream identity : String)
  /-- Let a text be processed as if a link had delivered it. -/
  | frame (text : String)
  /-- Submit a request. -/
  | send (method : Method) (params : List String)
  /-- Break down. -/
  | breakDown

end

instance : Inhabited Script := ⟨.mk "" []⟩

instance : Inhabited Action := ⟨.breakDown⟩

/-- The name of a script. -/
def Script.tag : Script → String
  | .mk tag _ => tag

/-- The actions of a script. -/
def Script.actions : Script → List Action
  | .mk _ actions => actions

/-- A callback of a session. -/
inductive Callback where
  /-- A script. -/
  | script (s : Script)
  /-- The handler of the view with this number. -/
  | view (number : Nat)

/-- The result of an action. -/
inductive Effect where
  /-- Whether something was replaced or removed. -/
  | flag (b : Bool)
  /-- What became of a text. -/
  | frame (r : Except Connection.FrameError Nat)
  /-- The number of a request. -/
  | number (n : Nat)

/-- What is noted while callbacks run. -/
inductive Note where
  /-- A script was run for an event. -/
  | ran (tag : String) (e : Event)
  /-- A script has done an action. -/
  | did (tag : String) (e : Effect)

end BookFeed.Session
