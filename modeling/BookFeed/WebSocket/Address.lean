set_option autoImplicit false

/-!
# Addresses of sockets

The address of a stream is read more strictly than other URLs: nothing in it is mended, and a
scheme, when there is one, is followed by a server. Only then it is asked whether the scheme is
one of sockets.

## Main definitions

* `BookFeed.WebSocket.AddressError` — what can be wrong with an address.
* `BookFeed.WebSocket.Address` — scheme, host and port.
* `BookFeed.WebSocket.Address.parse` — the address of a text.
-/

namespace BookFeed.WebSocket

/-- Why a text is no address of a socket. -/
inductive AddressError where
  /-- There is nothing where something has to be. -/
  | empty
  /-- The parts do not stand where they should. -/
  | format
  /-- A character that no address has. -/
  | character
  /-- A server that cannot be. -/
  | authority
  /-- The scheme is too long. -/
  | longScheme
  /-- The text is too long. -/
  | tooLong
  /-- There is no server. -/
  | noHost
  /-- The scheme is not one of sockets. -/
  | scheme
deriving DecidableEq, Repr

/-- The wording of a fault of an address. -/
def AddressError.message : AddressError → String
  | .empty => "HTTP format error: empty string"
  | .format => "HTTP format error: invalid format"
  | .character => "HTTP format error: invalid uri character"
  | .authority => "HTTP format error: invalid authority"
  | .longScheme => "HTTP format error: scheme too long"
  | .tooLong => "HTTP format error: uri too long"
  | .noHost => "URL error: No host name in the URL"
  | .scheme => "URL error: URL scheme not supported"

/-- Where a socket is. -/
structure Address where
  /-- The scheme, if there is one. -/
  scheme : Option String
  /-- The host. -/
  host : String
  /-- The port. -/
  port : Nat
deriving DecidableEq, Repr

/-! ### Characters -/

/-- Whether a character may stand in a scheme. -/
def isSchemeCharacter (c : Char) : Bool := c.isAlphanum || c ∈ ['+', '-', '.']

/-- Whether a character ends the server. -/
def endsServer (c : Char) : Bool := c ∈ ['/', '?', '#']

/-- Whether a character may stand in a server, percent signs apart. -/
def isServerCharacter (c : Char) : Bool :=
  c.isAlphanum || c ∈ "!$&'()*+,-.:;=@[]_~".toList

/-- Whether a character may stand in a path. -/
def isPathCharacter (c : Char) : Bool :=
  let n := c.toNat
  n == 0x21 || (0x24 ≤ n && n ≤ 0x3B) || n == 0x3D || (0x40 ≤ n && n ≤ 0x5F) ||
    (0x61 ≤ n && n ≤ 0x7E) || 0x7F ≤ n || c == '"'

/-- Whether a character may stand in a query. -/
def isQueryCharacter (c : Char) : Bool :=
  let n := c.toNat
  n == 0x21 || (0x24 ≤ n && n ≤ 0x3B) || n == 0x3D || 0x3F ≤ n

/-! ### Parts -/

/-- The scheme before a colon and two slashes, and what follows them. Colon and slashes alone
are not enough. -/
def splitScheme (cs : List Char) : Option (List Char × List Char) :=
  let scheme := cs.takeWhile isSchemeCharacter
  match cs.drop scheme.length with
  | ':' :: '/' :: '/' :: rest => if cs.length ≤ 3 then none else some (scheme, rest)
  | _ => none

/-- What was seen of a server so far. -/
structure ServerScan where
  /-- The colons since the last bracket or at sign. -/
  colons : Nat := 0
  /-- Whether a bracket was opened. -/
  opened : Bool := false
  /-- Whether a bracket was closed. -/
  closed : Bool := false
  /-- Whether there was a percent sign since the last bracket or at sign. -/
  percent : Bool := false
  /-- Whether the last character was an at sign. -/
  atSign : Bool := false

/-- Pass a character of a server. -/
def ServerScan.next (s : ServerScan) (c : Char) : Except AddressError ServerScan :=
  let s := { s with atSign := c == '@' }
  if c == ':' then
    if 8 ≤ s.colons then .error .authority else .ok { s with colons := s.colons + 1 }
  else if c == '[' then
    if s.percent || s.opened then .error .authority else .ok { s with opened := true }
  else if c == ']' then
    if !s.opened || s.closed then .error .authority
    else .ok { s with closed := true, colons := 0, percent := false }
  else if c == '@' then .ok { s with colons := 0, percent := false }
  else if c == '%' then .ok { s with percent := true }
  else if isServerCharacter c then .ok s
  else .error .character

/-- The server at the start of a text, which has to have something in it, and what follows. -/
def readServer (cs : List Char) : Except AddressError (List Char × List Char) := do
  if cs.isEmpty then throw .empty
  let server := cs.takeWhile (!endsServer ·)
  let s ← server.foldlM ServerScan.next {}
  if s.opened != s.closed || 1 < s.colons || s.atSign || s.percent then throw .authority
  pure (server, cs.drop server.length)

/-- Whether path and query have only characters that they may have. -/
def checkPath (cs : List Char) : Except AddressError Unit :=
  let cs := cs.takeWhile (· != '#')
  let path := cs.takeWhile (· != '?')
  let query := cs.drop (path.length + 1)
  if path.all isPathCharacter && query.all isQueryCharacter then .ok () else .error .character

/-- The host of a server: without user, and without port. A bracketed host keeps its
brackets. -/
def hostOf (server : List Char) : List Char :=
  let afterUser := (server.reverse.takeWhile (· != '@')).reverse
  match afterUser with
  | '[' :: _ => afterUser.takeWhile (· != ']') ++ [']']
  | _ => afterUser.takeWhile (· != ':')

/-- The digits behind the last colon as a port, if they are one. -/
def portOf (server : List Char) : Option Nat :=
  let digits := (server.reverse.takeWhile (· != ':')).reverse
  if digits.isEmpty || digits.length == server.length || !digits.all Char.isDigit then none
  else
    let port := digits.foldl (fun n c => 10 * n + (c.toNat - 0x30)) 0
    if port < 65536 then some port else none

/-- The usual ports of the schemes of sockets. -/
def usualPort? : Option String → Option Nat
  | some "ws" => some 80
  | some "wss" => some 443
  | _ => none

namespace Address

/-- Scheme and server of a text. A text with a single character, or with a slash at its start,
has no scheme; what has neither is all server. -/
def split (cs : List Char) : Except AddressError (Option (List Char) × List Char) := do
  if 65534 < String.utf8ByteSize (String.ofList cs) then throw .tooLong
  match cs, splitScheme cs with
  | [], _ => throw .empty
  | ['*'], _ => pure (none, [])
  | '/' :: _, _ =>
    checkPath cs
    pure (none, [])
  | [_], _ =>
    let (server, rest) ← readServer cs
    if rest.isEmpty then pure (none, server) else throw .character
  | _, none =>
    let (server, rest) ← readServer cs
    if rest.isEmpty then pure (none, server) else throw .format
  | _, some (scheme, rest) =>
    if 64 < scheme.length then throw .longScheme
    let (server, rest) ← readServer rest
    if server.isEmpty then throw .format
    checkPath rest
    pure (some scheme, server)

/-- The address of a text. -/
def parse (text : String) : Except AddressError Address := do
  let (scheme, server) ← split text.toList
  if server.isEmpty then throw .noHost
  let scheme := scheme.map String.ofList
  match (portOf server).or (usualPort? scheme) with
  | some port => pure ⟨scheme, String.ofList (hostOf server), port⟩
  | none => throw .scheme

/-- Whether the scheme is one of sockets. -/
def isSocket (a : Address) : Bool := (usualPort? a.scheme).isSome

end Address

end BookFeed.WebSocket
