import BookFeed.Connection.Link
import BookFeed.Feed.Error
import BookFeed.WebSocket.Address
import BookFeed.WebSocket.Status

set_option autoImplicit false

/-!
# An exchange with a server

A stand-in for a server of sockets: it refuses the connection, or reads what the client sends
and then acts. A server that neither closes nor vanishes answers when the client closes.

## Main definitions

* `BookFeed.WebSocket.Server`, `BookFeed.WebSocket.Act` — a server and what it does.
* `BookFeed.WebSocket.Server.connect` — what a client sees of it.
* `BookFeed.WebSocket.accepted` — which texts are taken after the connection has ended.
-/

namespace BookFeed.WebSocket

open Connection Feed

/-- What a server does. -/
inductive Act where
  /-- It sends a text. -/
  | text (s : String)
  /-- It sends bytes. -/
  | binary
  /-- It asks whether the client is alive. -/
  | ping
  /-- It answers such a question. -/
  | pong
  /-- It closes, perhaps with a code and a reason. -/
  | close (frame : Option (Nat × String))
  /-- It goes without closing. -/
  | vanish
deriving DecidableEq, Repr

/-- A server of sockets. -/
structure Server where
  /-- Where it is. -/
  host : String
  /-- Its port. -/
  port : Nat
  /-- The status with which it refuses to talk, if it does. -/
  refusal : Option Nat := none
  /-- What it does. -/
  acts : List Act := []
deriving DecidableEq, Repr

/-- How a close comes out of a socket: one with a code that may not be given breaks the
protocol. -/
def closeMessage : Option (Nat × String) → SocketMessage
  | some (code, reason) =>
    if isCloseCode code then .close (some (code, reason))
    else .close (some (1002, "Protocol violation"))
  | none => .close none

/-- How an act comes out of a socket. -/
def Act.message : Act → SocketMessage
  | .text s => .text s
  | .binary => .binary
  | .ping => .ping
  | .pong => .pong
  | .close frame => closeMessage frame
  | .vanish => .fault "WebSocket protocol error: Connection reset without closing handshake"

/-- All that comes out of a socket. At the end the client closes, and the server answers
that. -/
def messages (acts : List Act) : List SocketMessage := acts.map Act.message ++ [.close none]

namespace Server

/-- What the network says of an address where there is no server. -/
def unreachable (host : String) : String :=
  if host == "127.0.0.1" || host == "localhost" then
    "IO error: Connection refused (os error 111)"
  else if host.all fun c => c.isDigit || c == '.' then
    "IO error: Network is unreachable (os error 101)"
  else "IO error: failed to lookup address information: Temporary failure in name resolution"

/-- What a client sees that connects to an address: the events of the link, or why there is
none. -/
def connect (s : Server) (url : String) : Except TransportError (List LinkEvent) :=
  match Address.parse url with
  | .error e => .error (.protocol e.message)
  | .ok a =>
    if a.host != s.host || a.port != s.port then .error (.protocol (unreachable a.host))
    else if !a.isSocket then .error (.protocol AddressError.scheme.message)
    else match s.refusal with
      | some status => .error (.protocol s!"HTTP error: {statusText status}")
      | none => .ok (linkEvents (messages s.acts))

end Server

/-- Whether texts are taken that are sent after the connection has ended: the first one is, and
shows the writer that it has. -/
def accepted : List String → List Bool
  | [] => []
  | _ :: texts => true :: texts.map fun _ => false

end BookFeed.WebSocket
