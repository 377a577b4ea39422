import BookFeed.Url.Basic

set_option autoImplicit false

/-!
# Reading URLs

A URL is read from left to right: scheme, credentials, host, port, path, query, fragment. Blanks
and controls around it, and tabs and line ends within it, do not count. A reference without a
scheme is read relative to another URL.

## Main definitions

* `BookFeed.Url.parse` — the URL of a text.
* `BookFeed.Url.join` — the URL of a reference.
-/

namespace BookFeed.Url

/-- A text without what does not count in a URL. -/
def clean (cs : List Char) : List Char :=
  let isOuter := fun c : Char => c.toNat ≤ 0x20
  (((cs.dropWhile isOuter).reverse.dropWhile isOuter).reverse).filter
    fun c => !(c ∈ ['\t', '\n', '\r'])

/-- The scheme of a text in small letters, and what follows its colon. -/
def readScheme (cs : List Char) : Option (List Char × List Char) :=
  let scheme := cs.takeWhile fun c => c.isAlphanum || c ∈ ['+', '-', '.']
  match scheme, cs.drop scheme.length with
  | c :: _, ':' :: rest => if c.isAlpha then some (scheme.map Char.toLower, rest) else none
  | _, _ => none

/-! ### Server -/

/-- Whether a character ends the authority. -/
def SchemeKind.endsAuthority (kind : SchemeKind) (c : Char) : Bool :=
  kind.isSlash c || c == '?' || c == '#'

/-- The credentials of an authority, and what follows the last at sign. -/
def splitCredentials (authority : List Char) : Option (List Char × List Char) :=
  let host := (authority.reverse.takeWhile (· != '@')).reverse
  if host.length == authority.length then none
  else some (authority.take (authority.length - host.length - 1), host)

/-- User and password of credentials, divided by the first colon. -/
def readCredentials (cs : List Char) : List Char × List Char :=
  let user := cs.takeWhile (· != ':')
  (escape escapedInCredentials user, escape escapedInCredentials (cs.drop (user.length + 1)))

/-- How long the host at the start of a text is: up to a colon outside of brackets. -/
def hostLength : Bool → List Char → Nat
  | _, [] => 0
  | inBrackets, c :: cs =>
    if c == ':' && !inBrackets then 0
    else 1 + hostLength (if c == '[' then true else if c == ']' then false else inBrackets) cs

/-- The port of digits, or none if there is none or it is the usual one. -/
def readPort (scheme : List Char) (cs : List Char) : Except Error (Option Nat) :=
  match cs.foldlM (fun n c => if c.isDigit && 10 * n + (c.toNat - 0x30) < 65536 then
      some (10 * n + (c.toNat - 0x30)) else none) 0 with
  | none => .error .invalidPort
  | some n => .ok (if cs.isEmpty || usualPort? scheme == some n then none else some n)

/-- Host and port, for a URL that is no file, and what follows them: a backslash ends a port
whatever the scheme is. -/
def readServer (scheme : List Char) (cs : List Char) :
    Except Error (Host × Option Nat × List Char) := do
  let size := hostLength false cs
  let isWeb := schemeKind scheme == .web
  if isWeb && size == 0 then throw .emptyHost
  let host ← if isWeb then readHost (cs.take size) else readFreeHost (cs.take size)
  match cs.drop size with
  | [] => pure (host, none, [])
  | _ :: afterColon =>
    if host == .name [] then throw .emptyHost
    let digits := afterColon.takeWhile (· != '\\')
    pure (host, ← readPort scheme digits, afterColon.drop digits.length)

/-- The authority at the start of a text, and what follows it. -/
def readAuthority (scheme : List Char) (cs : List Char) :
    Except Error (Authority × List Char) := do
  let authority := cs.takeWhile fun c => !(schemeKind scheme).endsAuthority c
  let rest := cs.drop authority.length
  match splitCredentials authority with
  | none =>
    let (host, port, more) ← readServer scheme authority
    pure ({ host, port }, more ++ rest)
  | some (credentials, server) =>
    if credentials.isEmpty && server.isEmpty && !rest.isEmpty then throw .emptyHost
    let (user, password) := readCredentials credentials
    let (host, port, more) ← readServer scheme server
    if host == .name [] && !(user.isEmpty && password.isEmpty) then throw .emptyHost
    pure ({ user, password, host, port }, more ++ rest)

/-! ### Path -/

/-- The spellings of a single dot, in small letters. -/
def singleDots : List (List Char) := [['.'], ['%', '2', 'e']]

/-- Whether a segment stands for the place where it is. -/
def isSingleDot (s : List Char) : Bool := s.map Char.toLower ∈ singleDots

/-- Whether a segment stands for one step up. -/
def isDoubleDot (s : List Char) : Bool :=
  s.map Char.toLower ∈ singleDots.flatMap fun a => singleDots.map (a ++ ·)

/-- Whether a segment is the letter of a drive, with a colon or a bar. -/
def isDrive : List Char → Bool
  | [c, d] => c.isAlpha && (d == ':' || d == '|')
  | _ => false

/-- A segment as it is kept: escaped, and the letter of a drive with its colon. -/
def keptSegment (kind : SchemeKind) (s : List Char) : List Char :=
  if kind == .file && isDrive s then s.take 1 ++ [':'] else escape escapedInPath s

/-- One step up from the segments, of which the last one is first. There is none from a drive,
and none from the root. -/
def stepUp (kind : SchemeKind) : List (List Char) → List (List Char)
  | [] => []
  | s :: ss => if kind == .file && isDrive s then s :: ss else ss

/-- The segments of a path below other segments, the last of which is first. Dots are resolved,
and where one of them is last the path ends with a slash. -/
def resolve (kind : SchemeKind) : List (List Char) → List (List Char) → List (List Char)
  | above, [] => above.reverse
  | above, [s] =>
    if isDoubleDot s then (([] : List Char) :: stepUp kind above).reverse
    else if isSingleDot s then (([] : List Char) :: above).reverse
    else (keptSegment kind s :: above).reverse
  | above, s :: ss =>
    if isDoubleDot s then resolve kind (stepUp kind above) ss
    else if isSingleDot s then resolve kind above ss
    else resolve kind (keptSegment kind s :: above) ss

/-- The pieces of a path between its slashes. -/
def splitSegments (kind : SchemeKind) (cs : List Char) : List (List Char) :=
  (cs.map fun c => if kind.isSlash c then '/' else c).splitOn '/'

/-- A path of a file has no empty segments at its start. -/
def withoutEmptyStart (kind : SchemeKind) (ss : List (List Char)) : List (List Char) :=
  if kind == .file then
    match ss.dropWhile List.isEmpty with
    | [] => [[]]
    | ss => ss
  else ss

/-- The path of a text below other segments. -/
def readBelow (kind : SchemeKind) (above : List (List Char)) (cs : List Char) : Path :=
  .segments (withoutEmptyStart kind (resolve kind above (splitSegments kind cs)))

/-- The path after an authority. A URL of the web has one even if nothing is written. -/
def readPath (kind : SchemeKind) : List Char → Path
  | [] => .segments (if kind == .free then [] else [[]])
  | c :: cs => if kind.isSlash c then readBelow kind [] cs else readBelow kind [] (c :: cs)

/-! ### Query and fragment -/

/-- A text up to its query and fragment, the query and the fragment. -/
def splitTail (cs : List Char) : List Char × Option (List Char) × Option (List Char) :=
  let front := cs.takeWhile (· != '#')
  let fragment := if front.length == cs.length then none else some (cs.drop (front.length + 1))
  let path := front.takeWhile (· != '?')
  let query := if path.length == front.length then none else some (front.drop (path.length + 1))
  (path, query, fragment)

/-- A query as it is kept. -/
def keptQuery (kind : SchemeKind) (cs : List Char) : List Char :=
  escape (if kind == .free then escapedInQuery else escapedInWebQuery) cs

/-- A fragment as it is kept. -/
def keptFragment (cs : List Char) : List Char := escape escapedInFragment cs

/-! ### The whole -/

/-- A URL from the text after its authority. -/
def finish (scheme : List Char) (authority : Option Authority) (path : List Char → Path)
    (cs : List Char) : Url :=
  let (front, query, fragment) := splitTail cs
  { scheme, authority, path := path front
    query := query.map (keptQuery (schemeKind scheme))
    fragment := fragment.map keptFragment }

/-- A URL from the text after the two slashes. -/
def readRemote (scheme : List Char) (cs : List Char) : Except Error Url := do
  let (authority, rest) ← readAuthority scheme cs
  pure (finish scheme (some authority) (readPath (schemeKind scheme)) rest)

/-- The host of a file and what follows it. The letter of a drive is no host, and the machine
itself needs none. -/
def readFileHost (cs : List Char) : Except Error (Host × List Char) := do
  let name := cs.takeWhile fun c => !SchemeKind.file.endsAuthority c
  if name.isEmpty || isDrive name then pure (.name [], cs)
  else
    let host ← readHost name
    let isHere := host == .name ['l', 'o', 'c', 'a', 'l', 'h', 'o', 's', 't']
    pure (if isHere then .name [] else host, cs.drop name.length)

/-- A URL of a file from the text after the colon. -/
def readFile (scheme : List Char) (cs : List Char) : Except Error Url := do
  let isSlash := SchemeKind.file.isSlash
  match cs with
  | a :: b :: rest =>
    if isSlash a && isSlash b then
      let (host, rest) ← readFileHost rest
      pure (finish scheme (some { host }) (readPath .file) rest)
    else pure (finish scheme (some { host := .name [] }) (readPath .file) cs)
  | _ => pure (finish scheme (some { host := .name [] }) (readPath .file) cs)

/-- A URL of another kind from the text after the colon. -/
def readFree (scheme : List Char) : List Char → Except Error Url
  | '/' :: '/' :: rest => readRemote scheme rest
  | '/' :: rest => .ok (finish scheme none (readBelow .free []) rest)
  | cs => .ok (finish scheme none (fun front => .plain (escape escapedEverywhere front)) cs)

/-- A URL from its scheme and the text after the colon. -/
def readAbsolute (scheme : List Char) (cs : List Char) : Except Error Url :=
  match schemeKind scheme with
  | .web => readRemote scheme (cs.dropWhile SchemeKind.web.isSlash)
  | .file => readFile scheme cs
  | .free => readFree scheme cs

/-- The URL of a text. -/
def parse (cs : List Char) : Except Error Url :=
  match readScheme (clean cs) with
  | some (scheme, rest) => readAbsolute scheme rest
  | none => .error .relativeWithoutBase

/-- The URL of a path, query or fragment relative to another URL, whose segments are given. -/
def joinPath (base : Url) (segments : List (List Char)) (cs : List Char) : Url :=
  let kind := schemeKind base.scheme
  let (path, query, fragment) := splitTail cs
  let query := query.map (keptQuery kind)
  let fragment := fragment.map keptFragment
  match path with
  | [] => { base with query := query.or base.query, fragment }
  | c :: rest =>
    let path := if kind.isSlash c then readBelow kind [] rest
      else readBelow kind segments.dropLast.reverse path
    { base with path, query, fragment }

/-- The URL of a reference that is relative to another URL. -/
def join (base : Url) (reference : List Char) : Except Error Url :=
  let cs := clean reference
  match readScheme cs, base.path, cs with
  | some (scheme, rest), _, _ => readAbsolute scheme rest
  | none, .plain _, '#' :: fragment => .ok { base with fragment := some (keptFragment fragment) }
  | none, .plain _, _ => .error .relativeToPlainPath
  | none, .segments ss, a :: b :: rest =>
    let isSlash := (schemeKind base.scheme).isSlash
    if isSlash a && isSlash b then readRemote base.scheme rest
    else .ok (joinPath base ss cs)
  | none, .segments ss, _ => .ok (joinPath base ss cs)

end BookFeed.Url
