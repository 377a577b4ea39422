import BookFeed.Book.Merge

set_option autoImplicit false

/-!
# The book of one market

A book starts without levels and waits for a first full snapshot. Changes that come before it
are kept, up to a limit, and are done on top of it. From then on changes are done as they come.

## Main definitions

* `BookFeed.Book.DepthUpdate` — a batch of changes.
* `BookFeed.Book.DepthBook` — depth, and the changes that wait.
* `BookFeed.Book.DepthBook.apply`, `BookFeed.Book.DepthBook.seed` — its two operations.
-/

namespace BookFeed.Book

/-- A batch of changes to both sides, with the number that the sender gave it. -/
structure DepthUpdate where
  /-- Changes of bids. -/
  bids : List Level := []
  /-- Changes of asks. -/
  asks : List Level := []
  /-- The number of the batch. -/
  id : Option Nat := none
deriving DecidableEq, Repr, Inhabited

/-- Do a batch of changes. -/
def Depth.update (d : Depth) (u : DepthUpdate) : Depth := d.apply u.bids u.asks

/-- The book of one market. -/
structure DepthBook where
  /-- How many batches may wait. -/
  limit : Nat
  /-- The levels. -/
  depth : Depth := {}
  /-- Whether a snapshot has come. -/
  seeded : Bool := false
  /-- The batches that wait, the oldest first. -/
  pending : List DepthUpdate := []
deriving DecidableEq, Repr

namespace DepthBook

/-- A book that waits for its snapshot. At least one batch may wait. -/
def new (limit : Nat) : DepthBook := { limit := max limit 1 }

/-- What became of a batch. -/
inductive Outcome where
  /-- Its changes were done. -/
  | applied
  /-- It waits. -/
  | buffered
deriving DecidableEq, Repr

/-- Let a batch wait; where there is no room the oldest one is dropped. -/
def buffer (b : DepthBook) (u : DepthUpdate) : DepthBook :=
  { b with pending := b.pending.drop (b.pending.length + 1 - b.limit) ++ [u] }

/-- Take a batch of changes. -/
def apply (b : DepthBook) (u : DepthUpdate) : DepthBook × Outcome :=
  if b.seeded then ({ b with depth := b.depth.update u }, .applied)
  else (b.buffer u, .buffered)

/-- Take a full snapshot: it replaces the levels, and the batches that wait are done on top. -/
def seed (b : DepthBook) (snapshot : Depth) : DepthBook :=
  { b with
    depth := b.pending.foldl Depth.update snapshot.normalize
    seeded := true
    pending := [] }

end DepthBook

end BookFeed.Book
