import BookFeed.Connection.Manager
import BookFeed.Seed.Error
import BookFeed.Settings.Load

set_option autoImplicit false

/-!
# All that can go wrong

## Main definitions

* `BookFeed.Failure` — a failure of any part.
* `BookFeed.Failure.message` — its wording.
* `BookFeed.Settings.check` — whether settings can be worked with.
-/

namespace BookFeed

/-- A failure of any part. -/
inductive Failure where
  /-- The settings cannot be read. -/
  | load (e : Settings.LoadError)
  /-- The settings cannot be worked with. -/
  | invalid (reason : String)
  /-- There is no connection, or it fails. -/
  | transport (e : Feed.TransportError)
  /-- A text of the stream is not understood, or nobody listens to it. -/
  | frame (e : Connection.FrameError)
  /-- Nothing was fetched. -/
  | fetch (e : Seed.FetchError)
deriving DecidableEq, Repr

namespace Failure

/-- The wording of a failure. -/
def message : Failure → String
  | .load e => s!"configuration error: {e.message}"
  | .invalid reason => s!"invalid configuration: {reason}"
  | .transport e => s!"transport error: {e.message}"
  | .frame e => e.message
  | .fetch e => s!"seed fetch error: {e.message}"

end Failure

/-- Whether settings can be worked with, as a failure of the program. -/
def Settings.check (s : Settings) : Except Failure Unit :=
  s.validate.mapError fun e => .invalid e.message

end BookFeed
