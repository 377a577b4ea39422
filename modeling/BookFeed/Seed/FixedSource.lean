import BookFeed.Book.Depth
import BookFeed.Seed.Error

set_option autoImplicit false

/-!
# A source with fixed answers

A stand-in for the server: it answers with the depth and the price that it was given, or fails
when told to.

## Main definitions

* `BookFeed.Seed.FixedSource` — the answers.
* `BookFeed.Seed.FixedSource.fetchDepth`, `BookFeed.Seed.FixedSource.fetchPrice` — asking.
-/

namespace BookFeed.Seed

/-- A source with fixed answers. -/
structure FixedSource where
  /-- The depth. -/
  depth : Book.Depth := {}
  /-- The price, if there is one. -/
  price : Option Decimal := none
  /-- Whether asking for the depth fails. -/
  failDepth : Bool := false
  /-- Whether asking for the price fails. -/
  failPrice : Bool := false
  /-- How long an answer takes, in milliseconds. -/
  latency : Nat := 0
  /-- How often the depth has been asked for. -/
  depthRequests : Nat := 0
deriving DecidableEq, Repr

namespace FixedSource

/-- Count a request for the depth. -/
def requested (s : FixedSource) : FixedSource :=
  { s with depthRequests := s.depthRequests + 1 }

/-- The answer to a request for the depth. -/
def fetchDepth (s : FixedSource) : Except FetchError Book.Depth :=
  if s.failDepth then .error (.status "depth" 503) else .ok s.depth

/-- The answer to a request for the price. -/
def fetchPrice (s : FixedSource) : Except FetchError Decimal :=
  if s.failPrice then .error (.status "latestprice" 503)
  else match s.price with
    | some p => .ok p
    | none => .error (.parse "latestprice" "no price configured")

end FixedSource

end BookFeed.Seed
