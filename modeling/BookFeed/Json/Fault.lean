set_option autoImplicit false

/-!
# Faults in the syntax of a JSON text

A fault is the first place at which a text stops being JSON. A reader that keeps the value and
one that only passes over it word some faults differently, because they look for different
things at the same place.

## Main definitions

* `BookFeed.Json.Fault` — the kinds of fault.
* `BookFeed.Json.Fault.keptMessage`, `BookFeed.Json.Fault.passedMessage` — the two wordings.
-/

namespace BookFeed.Json

/-- The kinds of syntax fault. -/
inductive Fault where
  /-- The text ends where a value must start. -/
  | missingValue
  /-- A character with which no value starts. -/
  | unexpectedCharacter
  /-- The text ends inside `null`, `true` or `false`. -/
  | wordCut
  /-- Another character inside `null`, `true` or `false`. -/
  | badWord
  /-- The text ends where a number needs a digit. -/
  | numberCut
  /-- A number lacks a digit or has a leading zero. -/
  | badNumber
  /-- The text ends inside a string. -/
  | stringCut
  /-- A control character inside a string. -/
  | controlCharacter
  /-- A backslash before a letter that names no escape. -/
  | badEscape
  /-- Four hexadecimal digits are missing. -/
  | badHex
  /-- The text ends where an array may go on or end. -/
  | arrayCut
  /-- Neither a comma nor the end behind an element. -/
  | arrayComma
  /-- The text ends behind a comma in an array. -/
  | elementCut
  /-- An array ends behind a comma. -/
  | arrayTrailingComma
  /-- The text ends where an object may go on or end. -/
  | objectCut
  /-- Neither a comma nor the end behind a member. -/
  | objectComma
  /-- The text ends behind a comma in an object. -/
  | keyCut
  /-- An object ends behind a comma. -/
  | objectTrailingComma
  /-- A key that is not a string. -/
  | keyNotString
  /-- The text ends behind a key. -/
  | colonCut
  /-- No colon behind a key. -/
  | colonMissing
deriving DecidableEq, Repr

/-- The wording of a reader that keeps the value. -/
def Fault.keptMessage : Fault → String
  | .missingValue => "EOF while parsing a value"
  | .unexpectedCharacter => "expected value"
  | .wordCut => "EOF while parsing a value"
  | .badWord => "expected ident"
  | .numberCut => "EOF while parsing a value"
  | .badNumber => "invalid number"
  | .stringCut => "EOF while parsing a string"
  | .controlCharacter => "control character (\\u0000-\\u001F) found while parsing a string"
  | .badEscape => "invalid escape"
  | .badHex => "invalid escape"
  | .arrayCut => "EOF while parsing a list"
  | .arrayComma => "expected `,` or `]`"
  | .elementCut => "EOF while parsing a value"
  | .arrayTrailingComma => "trailing comma"
  | .objectCut => "EOF while parsing an object"
  | .objectComma => "expected `,` or `\x7d`"
  | .keyCut => "EOF while parsing a value"
  | .objectTrailingComma => "trailing comma"
  | .keyNotString => "key must be a string"
  | .colonCut => "EOF while parsing an object"
  | .colonMissing => "expected `:`"

/-- The wording of a reader that passes over the value: it does not tell the end of the text
from a missing digit, and looks for the next element or key right behind a comma. -/
def Fault.passedMessage : Fault → String
  | .numberCut => Fault.keptMessage .badNumber
  | .arrayTrailingComma => Fault.keptMessage .unexpectedCharacter
  | .objectTrailingComma => Fault.keptMessage .keyNotString
  | .keyCut => Fault.keptMessage .objectCut
  | f => f.keptMessage

end BookFeed.Json
