import BookFeed.Seed.Candle
import BookFeed.Seed.Error
import BookFeed.Seed.Price
import BookFeed.Seed.Trade
import BookFeed.Url.Read

set_option autoImplicit false

/-!
# Asking the server

A client asks a server for depth, the latest price, trades and candles. How a request gets to
the server and back is left to a function, the getter.

## Main definitions

* `BookFeed.Seed.Reply`, `BookFeed.Seed.Getter` — what carries requests.
* `BookFeed.Seed.Client` — who is asked.
* `BookFeed.Seed.Client.fetch` — asking and reading the answer.
-/

namespace BookFeed.Seed

open Json

/-- An answer of a server. -/
structure Reply where
  /-- The status. -/
  status : Nat
  /-- The body. -/
  body : String
deriving DecidableEq, Repr

/-- What carries a request to the server that its URL names, and the answer back. -/
abbrev Getter (μ : Type → Type) := Url → μ (Except HttpFault Reply)

/-- Whether an answer reports success. -/
def Reply.isSuccess (r : Reply) : Bool := 200 ≤ r.status && r.status < 300

/-- What an answer says. -/
def Reply.read {α : Type} (r : Reply) (endpoint : String) (reader : Reader α) :
    Except FetchError α :=
  if r.isSuccess then (Reader.run reader r.body).mapError (.parse endpoint ·.message)
  else .error (.status endpoint r.status)

/-- Who is asked: all addresses are relative to one URL. -/
structure Client where
  /-- The URL. -/
  base : Url
deriving DecidableEq, Repr

namespace Client

/-- A text without slashes at its end. -/
def withoutSlashes (cs : List Char) : List Char := (cs.reverse.dropWhile (· == '/')).reverse

/-- The client of an address. A single slash at the end keeps the last segment of the address in
what is asked for. -/
def new (address : String) : Except FetchError Client :=
  ((Url.parse (withoutSlashes address.toList ++ ['/'])).map (⟨·⟩)).mapError .url

/-- The URL of an endpoint. -/
def endpoint (c : Client) (path : String) : Except FetchError Url :=
  (c.base.join (path.toList.dropWhile (· == '/'))).mapError .url

/-- The schemes of web servers. -/
def schemes : List (List Char) := ["http".toList, "https".toList]

variable {μ : Type → Type} [Monad μ]

/-- Ask for an endpoint and read the answer. -/
def fetch {α : Type} (c : Client) (get : Getter μ) (path : String) (reader : Reader α) :
    μ (Except FetchError α) := do
  match c.endpoint path with
  | .error e => return .error e
  | .ok url =>
    let reply ← if schemes.contains url.scheme then get url else pure (.error .scheme)
    match reply with
    | .error fault => return .error (.http (String.ofList url.text) fault)
    | .ok reply => return reply.read path reader

/-- Ask for the depth. The levels stay in the order of the answer. -/
def depth (c : Client) (get : Getter μ) : μ (Except FetchError Book.Depth) :=
  c.fetch get "depth" readDepth

/-- Ask for the latest price. -/
def latestPrice (c : Client) (get : Getter μ) : μ (Except FetchError LatestPrice) :=
  c.fetch get "latestprice" LatestPrice.read

/-- Ask for the trades; the most recent one comes first. -/
def trades (c : Client) (get : Getter μ) : μ (Except FetchError (List Trade)) :=
  return (← c.fetch get "trades" Trade.readList).map Trade.recentFirst

/-- The endpoint of candles of an interval. -/
def candlePath (interval : String) : String :=
  "klines/" ++ String.ofList (withoutSlashes (interval.toList.dropWhile (· == '/')))

/-- Ask for the candles of an interval; the latest one comes last. -/
def candles (c : Client) (get : Getter μ) (interval : String) :
    μ (Except FetchError (List Candle)) :=
  return (← c.fetch get (candlePath interval) Candle.readList).map Candle.latestLast

end Client

end BookFeed.Seed
