import BookFeed.Url.Host

set_option autoImplicit false

/-!
# URLs

A URL names a scheme, most often a server, and a path there; a query and a fragment may follow.

## Main definitions

* `BookFeed.Url` — a URL.
* `BookFeed.Url.text` — its written form.
* `BookFeed.Url.target` — what of it is asked of the server.
-/

namespace BookFeed

/-- Who is asked: a server, and as whom. -/
structure Url.Authority where
  /-- The user; empty for nobody. -/
  user : List Char := []
  /-- The password; empty for none. -/
  password : List Char := []
  /-- The host. -/
  host : Url.Host
  /-- The port, where it is not the usual one of the scheme. -/
  port : Option Nat := none
deriving DecidableEq, Repr

/-- What is asked for. -/
inductive Url.Path where
  /-- A text without a hierarchy. -/
  | plain (cs : List Char)
  /-- Segments, each with a slash before it. -/
  | segments (ss : List (List Char))
deriving DecidableEq, Repr

/-- A URL. -/
structure Url where
  /-- The scheme, in small letters. -/
  scheme : List Char
  /-- The server. -/
  authority : Option Url.Authority
  /-- The path. -/
  path : Url.Path
  /-- The query, without its question mark. -/
  query : Option (List Char) := none
  /-- The fragment, without its number sign. -/
  fragment : Option (List Char) := none
deriving DecidableEq, Repr

namespace Url

/-! ### Schemes -/

/-- How URLs of a scheme are read. -/
inductive SchemeKind where
  /-- Local files: there need not be a host, and drives have letters. -/
  | file
  /-- Schemes of the web: there is a host, and a backslash is a slash. -/
  | web
  /-- All other schemes. -/
  | free
deriving DecidableEq, Repr

/-- The usual ports of the schemes of the web. -/
def usualPorts : List (String × Nat) :=
  [("http", 80), ("https", 443), ("ws", 80), ("wss", 443), ("ftp", 21)]

/-- The usual port of a scheme. -/
def usualPort? (scheme : List Char) : Option Nat := usualPorts.lookup (String.ofList scheme)

/-- The kind of a scheme. -/
def schemeKind (scheme : List Char) : SchemeKind :=
  if scheme == ['f', 'i', 'l', 'e'] then .file
  else if (usualPort? scheme).isSome then .web
  else .free

/-- Whether a character divides the segments of a path. -/
def SchemeKind.isSlash (kind : SchemeKind) (c : Char) : Bool :=
  c == '/' || (kind != .free && c == '\\')

/-! ### The written form -/

/-- User and password, with what divides them from the host. -/
def Authority.credentialsText (a : Authority) : List Char :=
  if a.user.isEmpty && a.password.isEmpty then []
  else a.user ++ (if a.password.isEmpty then [] else ':' :: a.password) ++ ['@']

/-- The written form of an authority. -/
def Authority.text (a : Authority) : List Char :=
  a.credentialsText ++ a.host.text ++
    match a.port with
    | some n => ':' :: Nat.toDigits 10 n
    | none => []

/-- The written form of a path. -/
def Path.text : Path → List Char
  | .plain cs => cs
  | .segments ss => ss.flatMap ('/' :: ·)

/-- Whether the written form of a path starts like an authority. -/
def Path.looksLikeAuthority : Path → Bool
  | .segments ([] :: _ :: _) => true
  | _ => false

/-- The written form of the server, with its two slashes. A path that starts like a server when
there is none has a dot put before it. -/
def serverText (u : Url) : List Char :=
  match u.authority with
  | some a => '/' :: '/' :: a.text
  | none => if u.path.looksLikeAuthority then ['/', '.'] else []

/-- A query with its question mark. -/
def queryText (u : Url) : List Char :=
  match u.query with
  | some q => '?' :: q
  | none => []

/-- A fragment with its number sign. -/
def fragmentText (u : Url) : List Char :=
  match u.fragment with
  | some f => '#' :: f
  | none => []

/-- The written form of a URL. -/
def text (u : Url) : List Char :=
  u.scheme ++ ':' :: u.serverText ++ u.path.text ++ u.queryText ++ u.fragmentText

/-- What is asked of the server: path and query. -/
def target (u : Url) : List Char := u.path.text ++ u.queryText

end Url

end BookFeed
