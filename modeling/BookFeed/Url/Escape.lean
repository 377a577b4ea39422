set_option autoImplicit false

/-!
# Percent escapes

A character that a part of a URL may not hold as it is stands there as the bytes of its UTF-8
form, each as a percent sign and two hexadecimal digits. Which characters these are depends on
the part; a percent sign itself is never escaped, so what is escaped already stays as it is.

## Main definitions

* `BookFeed.Url.escape`, `BookFeed.Url.unescape` — to escapes and back to bytes.
* `BookFeed.Url.escapedInPath` and its neighbours — what is escaped where.
-/

namespace BookFeed.Url

/-- A digit of a hexadecimal number, in upper case. -/
def hexDigit (n : Nat) : Char :=
  if n < 10 then Char.ofNat (0x30 + n) else Char.ofNat (0x37 + n)

/-- The value of a hexadecimal digit. -/
def hexValue? (c : Char) : Option Nat :=
  if c.isDigit then some (c.toNat - 0x30)
  else if 'a' ≤ c && c ≤ 'f' then some (c.toNat - 0x57)
  else if 'A' ≤ c && c ≤ 'F' then some (c.toNat - 0x37)
  else none

/-- A byte as an escape. -/
def escapeByte (b : UInt8) : List Char :=
  ['%', hexDigit (b.toNat / 16), hexDigit (b.toNat % 16)]

/-- A text in which the characters of a set are escaped. -/
def escape (escaped : Char → Bool) (cs : List Char) : List Char :=
  cs.flatMap fun c => if escaped c then (String.utf8EncodeChar c).flatMap escapeByte else [c]

/-- The bytes of a text when its escapes are resolved. A percent sign without two digits after
it is an ordinary character. -/
def unescape : List Char → List UInt8
  | '%' :: a :: b :: rest =>
    match hexValue? a, hexValue? b with
    | some m, some n => UInt8.ofNat (16 * m + n) :: unescape rest
    | _, _ => String.utf8EncodeChar '%' ++ unescape (a :: b :: rest)
  | c :: rest => String.utf8EncodeChar c ++ unescape rest
  | [] => []

/-- Controls, and all that is not ASCII. -/
def escapedEverywhere (c : Char) : Bool := c.toNat < 0x20 || 0x7F ≤ c.toNat

/-- What is escaped in a fragment. -/
def escapedInFragment (c : Char) : Bool :=
  escapedEverywhere c || c ∈ [' ', '"', '<', '>', '\x60']

/-- What is escaped in a query. -/
def escapedInQuery (c : Char) : Bool :=
  escapedEverywhere c || c ∈ [' ', '"', '#', '<', '>']

/-- What is escaped in the query of a URL of the web. -/
def escapedInWebQuery (c : Char) : Bool := escapedInQuery c || c == '\''

/-- What is escaped in a path. -/
def escapedInPath (c : Char) : Bool :=
  escapedInFragment c || c ∈ ['#', '?', '\x7b', '\x7d']

/-- What is escaped in a user name or password. -/
def escapedInCredentials (c : Char) : Bool :=
  escapedInPath c || c ∈ ['/', ':', ';', '=', '@', '[', '\\', ']', '^', '|']

end BookFeed.Url
