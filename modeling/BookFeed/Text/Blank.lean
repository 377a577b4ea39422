set_option autoImplicit false

/-!
# White space

White space is the Unicode property of that name: 25 characters, of which six are ASCII.

## Main definitions

* `BookFeed.Text.isBlank` — the property.
* `BookFeed.Text.trim` — a text without the white space at its two ends.
-/

namespace BookFeed.Text

/-- Whether a character has the Unicode property `White_Space`. -/
def isBlank (c : Char) : Bool :=
  let n := c.toNat
  (0x09 ≤ n && n ≤ 0x0D) || n == 0x20 || n == 0x85 || n == 0xA0 || n == 0x1680 ||
    (0x2000 ≤ n && n ≤ 0x200A) || n == 0x2028 || n == 0x2029 || n == 0x202F || n == 0x205F ||
    n == 0x3000

/-- A text without white space at its start. -/
def trimStart (cs : List Char) : List Char := cs.dropWhile isBlank

/-- A text without white space at its end. -/
def trimEnd (cs : List Char) : List Char := (cs.reverse.dropWhile isBlank).reverse

/-- A text without white space at its two ends. -/
def trim (cs : List Char) : List Char := trimEnd (trimStart cs)

end BookFeed.Text
