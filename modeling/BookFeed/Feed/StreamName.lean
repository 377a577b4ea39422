set_option autoImplicit false

/-!
# Stream names

A stream is named by a channel and a market with an at sign between them. The first at sign is
the one that divides the name; a market may contain others.

## Main definitions

* `BookFeed.Feed.StreamName` — channel and market.
* `BookFeed.Feed.StreamName.text` — the written form.
* `BookFeed.Feed.StreamName.parse?` — the name of a text.
-/

namespace BookFeed.Feed

/-- A channel of a market. -/
structure StreamName where
  /-- What is sent. -/
  channel : String
  /-- The market that it is about. -/
  market : String
deriving DecidableEq, Repr

/-- The channel of changes of the book. -/
def depthChannel : String := "depth"

/-- The channel of market figures. -/
def tickerChannel : String := "ticker"

/-- The channel of trades. -/
def tradeChannel : String := "trade"

namespace StreamName

/-- The character between channel and market. -/
def separator : Char := '@'

/-- The written form. -/
def text (n : StreamName) : String := n.channel ++ "@" ++ n.market

/-- The stream of changes of a market's book. -/
def depth (market : String) : StreamName := ⟨depthChannel, market⟩

/-- The stream of a market's figures. -/
def ticker (market : String) : StreamName := ⟨tickerChannel, market⟩

/-- The stream of a market's trades. -/
def trade (market : String) : StreamName := ⟨tradeChannel, market⟩

/-- The name of a text, if there is an at sign with something on both of its sides. -/
def parse? (s : String) : Option StreamName :=
  let cs := s.toList
  let channel := cs.takeWhile (· != separator)
  let market := (cs.dropWhile (· != separator)).drop 1
  if channel.isEmpty || market.isEmpty then none
  else some ⟨String.ofList channel, String.ofList market⟩

end StreamName

end BookFeed.Feed
