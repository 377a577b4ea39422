set_option autoImplicit false

/-!
# What a link delivers

The messages of a socket become the events of a link: texts are passed on, and the first close,
fault or end of the stream becomes the one and last event that the link has ended. Other
messages are ignored.

## Main definitions

* `BookFeed.Connection.SocketMessage` — what comes out of a socket.
* `BookFeed.Connection.LinkEvent` — what a link delivers.
* `BookFeed.Connection.linkEvents` — the events of a list of messages.
-/

namespace BookFeed.Connection

/-- What comes out of a socket. -/
inductive SocketMessage where
  /-- A text. -/
  | text (s : String)
  /-- Bytes. -/
  | binary
  /-- A question whether the other side is alive. -/
  | ping
  /-- The answer to such a question. -/
  | pong
  /-- The other side closes, perhaps with a code and a reason. -/
  | close (frame : Option (Nat × String))
  /-- Reading has failed. -/
  | fault (message : String)
deriving DecidableEq, Repr

/-- What a link delivers. -/
inductive LinkEvent where
  /-- A text. -/
  | frame (text : String)
  /-- The link has ended. -/
  | closed (code : Option Nat) (reason : String)
deriving DecidableEq, Repr

/-- The event of a close message. -/
def LinkEvent.ofClose (frame : Option (Nat × String)) : LinkEvent :=
  .closed (frame.map (·.1)) ((frame.map (·.2)).getD "")

/-- The events of the messages of a socket, whose stream ends behind them. -/
def linkEvents : List SocketMessage → List LinkEvent
  | [] => [.closed none "stream ended"]
  | .text s :: ms => .frame s :: linkEvents ms
  | .close frame :: _ => [.ofClose frame]
  | .fault message :: _ => [.closed none message]
  | .binary :: ms => linkEvents ms
  | .ping :: ms => linkEvents ms
  | .pong :: ms => linkEvents ms

end BookFeed.Connection
