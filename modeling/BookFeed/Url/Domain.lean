import BookFeed.Text.Blank
import BookFeed.Text.Graphic
import BookFeed.Url.Punycode

set_option autoImplicit false

/-!
# Domain names

A domain name is a row of labels with dots between them. The name of a URL may be written with
capitals and with characters beyond ASCII; what is looked up is its ASCII form, in small
letters, where a label that is not ASCII is `xn--` and its Punycode.

## Main definitions

* `BookFeed.Url.foldCharacter` — how a character counts in a name.
* `BookFeed.Url.asciiDomain?` — the ASCII form of a name.
-/

namespace BookFeed.Url

/-- Capitals of the Latin, Greek and Cyrillic alphabets, by the distance to their small
letters. -/
def capitals : List (Nat × Nat × Nat) :=
  [(0x41, 0x5A, 0x20), (0xC0, 0xD6, 0x20), (0xD8, 0xDE, 0x20), (0x386, 0x386, 38),
   (0x388, 0x38A, 37), (0x38C, 0x38C, 64), (0x38E, 0x38F, 63), (0x391, 0x3A1, 0x20),
   (0x3A3, 0x3AB, 0x20), (0x400, 0x40F, 0x50), (0x410, 0x42F, 0x20), (0x531, 0x556, 0x30)]

/-- Ranges in which each capital stands before its small letter, by the parity of the
capitals. -/
def alternating : List (Nat × Nat × Nat) :=
  [(0x100, 0x12F, 0), (0x132, 0x137, 0), (0x139, 0x148, 1), (0x14A, 0x177, 0), (0x179, 0x17E, 1),
   (0x370, 0x373, 0), (0x3D8, 0x3EF, 0), (0x460, 0x481, 0), (0x48A, 0x4BF, 0), (0x4C1, 0x4CE, 1),
   (0x4D0, 0x52F, 0), (0x1E00, 0x1E95, 0), (0x1EA0, 0x1EFF, 0)]

/-- The small letter of a capital; other characters stay as they are. -/
def smallLetter (n : Nat) : Nat :=
  match capitals.find? fun (first, last, _) => first ≤ n && n ≤ last with
  | some (_, _, distance) => n + distance
  | none =>
    if alternating.any fun (first, last, parity) =>
        first ≤ n && n ≤ last && n % 2 == parity then
      n + 1
    else n

/-- Characters that do not count in a name: soft hyphens, joiners of words, variation marks. -/
def isIgnored (n : Nat) : Bool :=
  n ∈ [0xAD, 0x34F, 0x200B, 0x2060, 0x2064, 0xFEFF] || (0x180B ≤ n && n ≤ 0x180D) ||
    (0xFE00 ≤ n && n ≤ 0xFE0F)

/-- How a character counts in a name: ideographic full stops are dots, wide forms are ASCII, and
capitals are small letters. -/
def foldCharacter (c : Char) : List Char :=
  let n := c.toNat
  if isIgnored n then []
  else if n ∈ [0x3002, 0xFF0E, 0xFF61] then ['.']
  else if 0xFF01 ≤ n && n ≤ 0xFF5E then [Char.ofNat (smallLetter (n - 0xFEE0))]
  else [Char.ofNat (smallLetter n)]

/-- A name as it counts. -/
def foldDomain (cs : List Char) : List Char := cs.flatMap foldCharacter

/-- Characters that no name has: controls, blanks, the delimiters of a URL, private characters
and those without a meaning of their own. -/
def isForbiddenInDomain (c : Char) : Bool :=
  let n := c.toNat
  n ≤ 0x20 || (0x7F ≤ n && n ≤ 0x9F) ||
    c ∈ ['#', '%', '/', ':', '<', '>', '?', '@', '[', '\\', ']', '^', '|'] ||
    Text.isBlank c || (0x200C ≤ n && n ≤ 0x200F) || (0x202A ≤ n && n ≤ 0x202E) ||
    (0x2066 ≤ n && n ≤ 0x206F) || (0xE000 ≤ n && n ≤ 0xF8FF) ||
    (0xFFF9 ≤ n && n ≤ 0xFFFF) || 0xE0000 ≤ n

/-- Whether a character is ASCII. -/
def isAscii (c : Char) : Bool := c.toNat < 0x80

/-- What an ASCII form of a label that is not ASCII starts with. -/
def punycodeMark : List Char := ['x', 'n', '-', '-']

/-- Whether a label starts with a character that has a visible form of its own, and not with a
mark on nothing; an empty label does. -/
def startsVisibly (label : List Char) : Bool := label.head?.all Text.isGraphic

/-- The ASCII form of a label. A label that claims to be one already has to be the form of a
label that is not ASCII and counts as it stands. -/
def asciiLabel? (label : List Char) : Option (List Char) :=
  if label.take 4 == punycodeMark then
    match Punycode.decode? (label.drop 4) with
    | some inner =>
      if !inner.all isAscii && foldDomain inner == inner && !inner.any isForbiddenInDomain &&
          startsVisibly inner then some label
      else none
    | none => none
  else if label.all isAscii then some label
  else if startsVisibly label then some (punycodeMark ++ Punycode.encode label)
  else none

/-- The ASCII form of a name, if it is one. -/
def asciiDomain? (cs : List Char) : Option (List Char) :=
  let folded := foldDomain cs
  if folded.any isForbiddenInDomain then none
  else ((folded.splitOn '.').mapM asciiLabel?).map (List.intercalate ['.'])

end BookFeed.Url
