import BookFeed.Json.Fault

set_option autoImplicit false

/-!
# JSON strings

A string is scanned into pieces: characters, which may come from a short escape, and 16-bit
units from hexadecimal escapes. Only a reader that keeps the string pairs the units up: a unit
from the surrogate range has to stand in a pair of a leading and a trailing one.

## Main definitions

* `BookFeed.Json.Quoted` — a scanned string.
* `BookFeed.Json.Quoted.scan` — scanning behind the opening quote.
* `BookFeed.Json.Quoted.decode` — the characters of the string.
* `BookFeed.Json.escape` — the written form of a string.
-/

namespace BookFeed.Json

/-- One element of a scanned string. -/
inductive Piece where
  /-- A character, as it stands or from a short escape. -/
  | char (c : Char)
  /-- A hexadecimal escape. -/
  | unit (n : Nat)
deriving DecidableEq, Repr

/-- A string up to its closing quote, or up to the fault that keeps it from having one. -/
structure Quoted where
  /-- What stands between the quotes. -/
  pieces : List Piece
  /-- Why there is no closing quote. -/
  fault : Option Fault
deriving DecidableEq, Repr

namespace Quoted

/-! ### Scanning -/

/-- The character that a backslash and this letter stand for. -/
def shortEscape? : Char → Option Char
  | '"' => some '"'
  | '\\' => some '\\'
  | '/' => some '/'
  | 'b' => some '\x08'
  | 'f' => some '\x0c'
  | 'n' => some '\n'
  | 'r' => some '\r'
  | 't' => some '\t'
  | _ => none

/-- The value of a hexadecimal digit of either case. -/
def hexDigit? (c : Char) : Option Nat :=
  if '0' ≤ c ∧ c ≤ '9' then some (c.toNat - '0'.toNat)
  else if 'a' ≤ c ∧ c ≤ 'f' then some (c.toNat - 'a'.toNat + 10)
  else if 'A' ≤ c ∧ c ≤ 'F' then some (c.toNat - 'A'.toNat + 10)
  else none

/-- How many bytes the characters take in UTF-8. -/
def byteLength (cs : List Char) : Nat := cs.foldl (fun n c => n + c.utf8Size) 0

/-- The value of four hexadecimal digits. -/
def hexValue? (a b c d : Char) : Option Nat := do
  return ((← hexDigit? a) * 16 + (← hexDigit? b)) * 256 +
    ((← hexDigit? c) * 16 + (← hexDigit? d))

/-- Which fault it is that four hexadecimal digits do not follow: with fewer than four bytes
left the string is cut. -/
def hexFault (cs : List Char) : Fault := if byteLength cs < 4 then .stringCut else .badHex

/-- Put a piece before a scanned string. -/
def cons (p : Piece) (r : Quoted × List Char) : Quoted × List Char :=
  ({ r.1 with pieces := p :: r.1.pieces }, r.2)

/-- A string that ends with a fault. -/
def fail (f : Fault) : Quoted × List Char := (⟨[], some f⟩, [])

/-- Scan a string behind its opening quote. The rest starts behind the closing quote. -/
def scan : List Char → Quoted × List Char
  | [] => fail .stringCut
  | '"' :: r => (⟨[], none⟩, r)
  | '\\' :: [] => fail .stringCut
  | '\\' :: 'u' :: a :: b :: c :: d :: r =>
    match hexValue? a b c d with
    | some n => cons (.unit n) (scan r)
    | none => fail (hexFault (a :: b :: c :: d :: r))
  | '\\' :: 'u' :: r => fail (hexFault r)
  | '\\' :: e :: r =>
    match shortEscape? e with
    | some c => cons (.char c) (scan r)
    | none => fail .badEscape
  | c :: r => if c.toNat < 0x20 then fail .controlCharacter else cons (.char c) (scan r)

/-! ### Decoding -/

/-- Why the pieces of a string are no text. -/
inductive DecodeError where
  /-- A trailing unit stands first, or another unit than a trailing one stands second. -/
  | loneSurrogate
  /-- Behind a leading unit there is no second one. -/
  | unpaired
  /-- The string has no end. -/
  | cut (f : Fault)
deriving DecidableEq, Repr

/-- Whether a unit opens a pair. -/
def isLeading (n : Nat) : Bool := 0xD800 ≤ n && n ≤ 0xDBFF

/-- Whether a unit closes a pair. -/
def isTrailing (n : Nat) : Bool := 0xDC00 ≤ n && n ≤ 0xDFFF

/-- The character that a pair of units stands for. -/
def pairValue (lead trail : Nat) : Char :=
  Char.ofNat ((lead - 0xD800) * 0x400 + (trail - 0xDC00) + 0x10000)

/-- What is wrong behind a leading unit that is the last piece: the string may be cut there, or
be faulty inside the escape that should be the second unit. -/
def unpairedEnd : Option Fault → DecodeError
  | some .stringCut => .cut .stringCut
  | some .badHex => .cut .badHex
  | _ => .unpaired

/-- The characters of the pieces, up to the fault at their end. -/
def decodePieces (fault : Option Fault) : List Piece → Except DecodeError (List Char)
  | [] =>
    match fault with
    | none => .ok []
    | some f => .error (.cut f)
  | .char c :: ps => do return c :: (← decodePieces fault ps)
  | .unit n :: ps =>
    if isTrailing n then .error .loneSurrogate
    else if isLeading n then
      match ps with
      | [] => .error (unpairedEnd fault)
      | .char _ :: _ => .error .unpaired
      | .unit m :: qs =>
        if isTrailing m then do return pairValue n m :: (← decodePieces fault qs)
        else .error .loneSurrogate
    else do return Char.ofNat n :: (← decodePieces fault ps)

/-- The characters of a scanned string. -/
def decode (q : Quoted) : Except DecodeError (List Char) := decodePieces q.fault q.pieces

end Quoted

/-! ### Writing -/

/-- The lower-case hexadecimal digit of a number below 16. -/
def hexDigit (n : Nat) : Char := Nat.digitChar n

/-- How a character is written inside a string: quote, backslash and control characters are
escaped, and nothing else is. -/
def escapeChar (c : Char) : List Char :=
  if c = '"' then ['\\', '"']
  else if c = '\\' then ['\\', '\\']
  else if c = '\x08' then ['\\', 'b']
  else if c = '\x0c' then ['\\', 'f']
  else if c = '\n' then ['\\', 'n']
  else if c = '\r' then ['\\', 'r']
  else if c = '\t' then ['\\', 't']
  else if c.toNat < 0x20 then
    ['\\', 'u', '0', '0', hexDigit (c.toNat / 16), hexDigit (c.toNat % 16)]
  else [c]

/-- The written form of a string. -/
def escape (cs : List Char) : List Char := '"' :: cs.flatMap escapeChar ++ ['"']

end BookFeed.Json
