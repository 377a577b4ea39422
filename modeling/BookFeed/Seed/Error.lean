import BookFeed.Url.Basic

set_option autoImplicit false

/-!
# What can go wrong with a fetch

## Main definitions

* `BookFeed.Seed.HttpFault`, `BookFeed.Seed.HttpFault.causes` — why a request had no answer.
* `BookFeed.Seed.FetchError`, `BookFeed.Seed.FetchError.message` — why nothing was fetched.
-/

namespace BookFeed.Seed

/-- Why a request had no answer. -/
inductive HttpFault where
  /-- The address is not one of a web server. -/
  | scheme
  /-- There was no connection. -/
  | refused
  /-- The connection ended before the answer. -/
  | dropped
  /-- The answer came too late. -/
  | timeout
deriving DecidableEq, Repr

/-- The wordings of a fault for an address, from the outermost to what is behind it all. -/
def HttpFault.causes (url : String) : HttpFault → List String
  | .scheme => [s!"builder error for url ({url})", "URL scheme is not allowed"]
  | .refused =>
    [s!"error sending request for url ({url})", "client error (Connect)", "tcp connect error",
      "Connection refused (os error 111)"]
  | .dropped =>
    [s!"error sending request for url ({url})", "client error (SendRequest)",
      "connection closed before message completed"]
  | .timeout => [s!"error sending request for url ({url})", "operation timed out"]

/-- Why nothing was fetched. -/
inductive FetchError where
  /-- The server answered, but not with success. -/
  | status (endpoint : String) (code : Nat)
  /-- The body of the answer is not understood. -/
  | parse (endpoint : String) (reason : String)
  /-- There is no address to ask. -/
  | url (e : Url.Error)
  /-- There was no answer from an address. -/
  | http (address : String) (fault : HttpFault)
deriving DecidableEq, Repr

namespace FetchError

/-- The wordings of what is behind a fetch error. -/
def causes : FetchError → List String
  | .url e => [e.message]
  | .http address fault => fault.causes address
  | _ => []

/-- The wording of a fetch error. -/
def message : FetchError → String
  | .status endpoint code => s!"GET {endpoint} returned HTTP {code}"
  | .parse endpoint reason => s!"failed to parse {endpoint} response: {reason}"
  | .url e => s!"invalid url: {e.message}"
  | .http address fault => "http request failed: " ++ ((fault.causes address).head?.getD "")

end FetchError

end BookFeed.Seed
