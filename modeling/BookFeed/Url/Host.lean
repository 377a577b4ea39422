import BookFeed.Power
import BookFeed.Url.Domain
import BookFeed.Url.Error
import BookFeed.Url.Escape

set_option autoImplicit false

/-!
# Hosts

A host is a name, an IPv4 address or an IPv6 address. A name whose last part is a number is an
IPv4 address or a fault; its parts may be decimal, octal or hexadecimal, and the last part fills
all the bytes that are left. An IPv6 address stands in brackets.

## Main definitions

* `BookFeed.Url.Host`, `BookFeed.Url.Host.text` — a host and its written form.
* `BookFeed.Url.readHost` — the host of a URL of the web.
* `BookFeed.Url.readFreeHost` — the host of another URL.
-/

namespace BookFeed.Url

/-- Where a server is. -/
inductive Host where
  /-- A name; an empty one stands for no host. -/
  | name (cs : List Char)
  /-- An IPv4 address as a number. -/
  | ipv4 (address : Nat)
  /-- An IPv6 address as its eight pieces. -/
  | ipv6 (pieces : List Nat)
deriving DecidableEq, Repr

/-! ### Numbers -/

/-- The number of digits in a base. -/
def numberOf? (base : Nat) (cs : List Char) : Option Nat :=
  cs.foldlM (fun n c => do
    let d ← hexValue? c
    if d < base then pure (base * n + d) else none) 0

/-- A part of an IPv4 address. -/
def readIpv4Part? : List Char → Option Nat
  | [] => none
  | '0' :: 'x' :: cs => numberOf? 16 cs
  | '0' :: 'X' :: cs => numberOf? 16 cs
  | '0' :: c :: cs => numberOf? 8 (c :: cs)
  | cs => numberOf? 10 cs

/-- The parts of a name; a dot at the end does not count. -/
def domainParts (cs : List Char) : List (List Char) :=
  let parts := cs.splitOn '.'
  if parts.getLast? == some [] then parts.dropLast else parts

/-- Whether the last part of a name is a number, in digits or in a base of an IPv4 address. -/
def endsInNumber (cs : List Char) : Bool :=
  match (domainParts cs).getLast? with
  | some part => (!part.isEmpty && part.all Char.isDigit) || (readIpv4Part? part).isSome
  | none => false

/-- The address of up to four numbers, the last of which fills the bytes that are left. -/
def ipv4Address? (numbers : List Nat) : Option Nat :=
  match numbers.reverse with
  | [] => none
  | last :: front =>
    let left := 4 - front.length
    if 3 < front.length || twoPow (8 * left) ≤ last || front.any (255 < ·) then none
    else some (front.reverse.foldl (256 * · + ·) 0 * twoPow (8 * left) + last)

/-- The IPv4 address of a name that ends in a number. -/
def readIpv4? (cs : List Char) : Option Nat :=
  ((domainParts cs).mapM readIpv4Part?).bind ipv4Address?

/-! ### IPv6 addresses -/

/-- A piece of an IPv6 address: up to four hexadecimal digits. -/
def readPiece? (cs : List Char) : Option Nat :=
  if cs.isEmpty || 4 < cs.length then none else numberOf? 16 cs

/-- A byte of an IPv4 address within an IPv6 address: decimal, without zeros before it. -/
def readByte? : List Char → Option Nat
  | [] => none
  | ['0'] => some 0
  | '0' :: _ => none
  | cs => (numberOf? 10 cs).filter (· ≤ 255)

/-- The two pieces that an IPv4 address takes. -/
def readIpv4Pieces? (cs : List Char) : Option (List Nat) :=
  match (cs.splitOn '.').mapM readByte? with
  | some [a, b, c, d] => some [256 * a + b, 256 * c + d]
  | _ => none

/-- The pieces of groups between colons; the last group may be an IPv4 address. -/
def readGroups? : List (List Char) → Option (List Nat)
  | [] => some []
  | [g] => if g.contains '.' then readIpv4Pieces? g else (readPiece? g).map ([·])
  | g :: gs => do
    let piece ← readPiece? g
    let pieces ← readGroups? gs
    pure (piece :: pieces)

/-- The pieces of a text with single colons; an empty text has none. -/
def readPieces? (cs : List Char) : Option (List Nat) :=
  if cs.isEmpty then some [] else readGroups? (cs.splitOn ':')

/-- A text up to its first pair of colons, and what follows the pair. -/
def splitAtGap : List Char → Option (List Char × List Char)
  | ':' :: ':' :: rest => some ([], rest)
  | c :: rest => (splitAtGap rest).map fun (before, after) => (c :: before, after)
  | [] => none

/-- The pieces of an IPv6 address; a pair of colons stands for at least one zero. -/
def readIpv6? (cs : List Char) : Option (List Nat) :=
  match splitAtGap cs with
  | none => (readPieces? cs).filter (·.length == 8)
  | some (before, after) => do
    if before.contains '.' then none
    let front ← readPieces? before
    let back ← readPieces? after
    if 7 < front.length + back.length then none
    else pure (front ++ List.replicate (8 - front.length - back.length) 0 ++ back)

/-- The longest row of zeros: where it starts and how long it is. Of two the first one
counts. -/
def longestZeros (pieces : List Nat) : Nat × Nat :=
  (List.range pieces.length).foldl (fun best start =>
    let length := ((pieces.drop start).takeWhile (· == 0)).length
    if best.2 < length then (start, length) else best) (0, 0)

/-- Pieces in hexadecimal with colons between them. -/
def piecesText (pieces : List Nat) : List Char :=
  List.intercalate [':'] (pieces.map (Nat.toDigits 16))

/-- The written form of an IPv6 address: a longest row of two or more zeros is left out. -/
def ipv6Text (pieces : List Nat) : List Char :=
  let (start, length) := longestZeros pieces
  if length < 2 then piecesText pieces
  else piecesText (pieces.take start) ++ [':', ':'] ++ piecesText (pieces.drop (start + length))

/-- The written form of an IPv4 address. -/
def ipv4Text (address : Nat) : List Char :=
  let bytes := [24, 16, 8, 0].map fun i => address / twoPow i % 256
  List.intercalate ['.'] (bytes.map (Nat.toDigits 10))

/-- The written form of a host. -/
def Host.text : Host → List Char
  | .name cs => cs
  | .ipv4 address => ipv4Text address
  | .ipv6 pieces => '[' :: ipv6Text pieces ++ [']']

/-! ### Reading a host -/

/-- What stands in the brackets of a text that starts with one, as a host. -/
def readBracketed (cs : List Char) : Except Error Host :=
  if cs.getLast? == some ']' then
    match readIpv6? cs.dropLast with
    | some pieces => .ok (.ipv6 pieces)
    | none => .error .invalidIpv6
  else .error .invalidIpv6

/-- The host of a URL of the web: escapes are resolved, and names are domain names. -/
def readHost : List Char → Except Error Host
  | '[' :: cs => readBracketed cs
  | cs =>
    match (String.fromUTF8? ⟨(unescape cs).toArray⟩).bind (asciiDomain? ·.toList) with
    | none => .error .invalidDomain
    | some [] => .error .emptyHost
    | some name =>
      if endsInNumber name then
        match readIpv4? name with
        | some address => .ok (.ipv4 address)
        | none => .error .invalidIpv4
      else .ok (.name name)

/-- Characters that no host has. -/
def isForbiddenInHost (c : Char) : Bool :=
  c ∈ ['\x00', '\t', '\n', '\r', ' ', '#', '/', ':', '<', '>', '?', '@', '[', '\\', ']', '^', '|']

/-- The host of a URL that is not of the web: any text without delimiters. -/
def readFreeHost : List Char → Except Error Host
  | '[' :: cs => readBracketed cs
  | cs =>
    if cs.any isForbiddenInHost then .error .invalidHostCharacter
    else .ok (.name (escape escapedEverywhere cs))

end BookFeed.Url
