import BookFeed.Json.Error

set_option autoImplicit false

/-!
# What can go wrong with a feed

## Main definitions

* `BookFeed.Feed.DecodeError` — a text from the server is not understood.
* `BookFeed.Feed.TransportError` — there is no connection, or it fails.
* `BookFeed.Feed.UnknownStream` — nobody listens to the stream of an event.
-/

namespace BookFeed.Feed

/-- A text from the server is not understood. -/
inductive DecodeError where
  /-- It is no frame. -/
  | malformed (e : Json.Error)
  /-- It is no stream name. -/
  | invalidStreamName (text : String)
deriving DecidableEq, Repr

/-- The wording of a decoding error. -/
def DecodeError.message : DecodeError → String
  | .malformed e => s!"malformed frame: {e.message}"
  | .invalidStreamName text => "invalid stream name: " ++ String.ofList (Text.quote text.toList)

/-- There is no connection, or it fails. -/
inductive TransportError where
  /-- No connection was made. -/
  | connectionFailed (reason : String)
  /-- The connection has ended. -/
  | connectionClosed (code : Option Nat) (reason : String)
  /-- A text could not be sent. -/
  | sendFailed (reason : String)
  /-- The transport protocol itself reports a fault. -/
  | protocol (reason : String)
deriving DecidableEq, Repr

/-- A close code as a message shows it. -/
def closeCodeText : Option Nat → String
  | some code => s!"Some({code})"
  | none => "None"

/-- The wording of a transport error. -/
def TransportError.message : TransportError → String
  | .connectionFailed reason => s!"websocket connection failed: {reason}"
  | .connectionClosed code reason =>
    s!"websocket connection closed: code={closeCodeText code}, reason={reason}"
  | .sendFailed reason => s!"failed to send websocket message: {reason}"
  | .protocol reason => s!"tungstenite error: {reason}"

/-- Nobody listens to the stream of an event. -/
structure UnknownStream where
  /-- The stream. -/
  stream : String
deriving DecidableEq, Repr

/-- The wording for a stream that nobody listens to. -/
def UnknownStream.message (e : UnknownStream) : String :=
  s!"no callbacks registered for stream {e.stream}"

end BookFeed.Feed
