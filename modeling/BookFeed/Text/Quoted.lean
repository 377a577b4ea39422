import BookFeed.Text.Graphic

set_option autoImplicit false

/-!
# Quoted text for messages

A message shows a name between double quotes, with quotes, backslashes, line ends and all
characters that are not graphic written as escapes, so that the name can be told from the
message.

## Main definitions

* `BookFeed.Text.quote` — the quoted form.
-/

namespace BookFeed.Text

/-- The lower-case hexadecimal digits of a number. -/
def hexDigits (n : Nat) : List Char := Nat.toDigits 16 n

/-- How one character is shown between the quotes. -/
def escapeForMessage (c : Char) : List Char :=
  if c = '\x00' then ['\\', '0']
  else if c = '\t' then ['\\', 't']
  else if c = '\r' then ['\\', 'r']
  else if c = '\n' then ['\\', 'n']
  else if c = '"' then ['\\', '"']
  else if c = '\\' then ['\\', '\\']
  else if isGraphic c then [c]
  else ['\\', 'u', '\x7b'] ++ hexDigits c.toNat ++ ['\x7d']

/-- A text between double quotes. -/
def quote (cs : List Char) : List Char :=
  '"' :: cs.flatMap escapeForMessage ++ ['"']

end BookFeed.Text
