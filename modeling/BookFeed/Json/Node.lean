import BookFeed.Json.Quoted
import BookFeed.Json.Numeral

set_option autoImplicit false

/-!
# Scanned JSON values

Scanning a text gives a value in which the first fault, if there is one, is left in its place:
everything before it is there, and nothing behind it. What a reader has to say about the value
itself it says in the order of the text, so that of two complaints the one further left wins,
whether it is about the syntax or about the type of a value.

## Main definitions

* `BookFeed.Json.Node` — a scanned value.
* `BookFeed.Json.Node.fault` — the fault inside a value.
* `BookFeed.Json.Node.scan` — scanning.
* `BookFeed.Json.Document` — a value and what stands behind it.
-/

namespace BookFeed.Json

/-- A scanned value. A container with a fault is one whose end was not reached; the fault is
also at the place where it was met, if that place is inside an element. -/
inductive Node where
  /-- The word `null`. -/
  | null
  /-- The words `true` and `false`. -/
  | bool (b : Bool)
  /-- A number. -/
  | number (n : Numeral)
  /-- A string. -/
  | string (s : Quoted)
  /-- An array. -/
  | array (items : List Node) (fault : Option Fault)
  /-- An object. A key is whatever value stands in its place. -/
  | object (members : List (Node × Node)) (fault : Option Fault)
  /-- No value, but a fault. -/
  | broken (f : Fault)
deriving Repr

namespace Node

/-- The fault inside a value. -/
def fault : Node → Option Fault
  | .string s => s.fault
  | .array _ f => f
  | .object _ f => f
  | .broken f => some f
  | _ => none

/-! ### Scanning -/

/-- Whether a character may stand between the parts of a text. -/
def isBlank (c : Char) : Bool := c == ' ' || c == '\t' || c == '\n' || c == '\r'

/-- The text from its first character that is not blank. -/
def skipBlank (cs : List Char) : List Char := cs.dropWhile isBlank

/-- Scan the rest of a word whose first letter has been met. -/
def scanWord (value : Node) : List Char → List Char → Node × List Char
  | [], r => (value, r)
  | _ :: _, [] => (.broken .wordCut, [])
  | w :: ws, c :: r => if c = w then scanWord value ws r else (.broken .badWord, [])

/-- Scan a number that starts here. -/
def scanNumber (cs : List Char) : Node × List Char :=
  match Numeral.scan cs with
  | .ok (n, r) => (.number n, r)
  | .error f => (.broken f, [])

/-- Scan a string behind its opening quote. -/
def scanString (cs : List Char) : Node × List Char :=
  let (s, r) := Quoted.scan cs
  (.string s, r)

/-- The members of an object that ends with a fault behind a key. -/
def keyOnly (key : Node) (f : Fault) : List (Node × Node) × Option Fault × List Char :=
  ([(key, .broken f)], some f, [])

mutual

/-- Scan the value that starts behind blanks; the rest starts behind it. -/
def scanValue : Nat → List Char → Node × List Char
  | 0, _ => (.broken .missingValue, [])
  | fuel + 1, cs =>
    match skipBlank cs with
    | [] => (.broken .missingValue, [])
    | '[' :: r =>
      let (items, f, rest) := scanItems fuel true r
      (.array items f, rest)
    | '\x7b' :: r =>
      let (members, f, rest) := scanMembers fuel true r
      (.object members f, rest)
    | '"' :: r => scanString r
    | 'n' :: r => scanWord .null ['u', 'l', 'l'] r
    | 't' :: r => scanWord (.bool true) ['r', 'u', 'e'] r
    | 'f' :: r => scanWord (.bool false) ['a', 'l', 's', 'e'] r
    | c :: r =>
      if c = '-' ∨ Numeral.isDigit c then scanNumber (c :: r)
      else (.broken .unexpectedCharacter, [])

/-- Scan the elements of an array, from behind the bracket or from behind an element. -/
def scanItems : Nat → Bool → List Char → List Node × Option Fault × List Char
  | 0, _, _ => ([], some .arrayCut, [])
  | fuel + 1, first, cs =>
    match skipBlank cs with
    | [] => ([], some .arrayCut, [])
    | ']' :: r => ([], none, r)
    | c :: r =>
      if first then scanItem fuel (c :: r)
      else if c = ',' then
        match skipBlank r with
        | [] => ([], some .elementCut, [])
        | ']' :: _ => ([], some .arrayTrailingComma, [])
        | r => scanItem fuel r
      else ([], some .arrayComma, [])

/-- Scan one element and those behind it. -/
def scanItem : Nat → List Char → List Node × Option Fault × List Char
  | 0, _ => ([], some .arrayCut, [])
  | fuel + 1, cs =>
    let (v, rest) := scanValue fuel cs
    match v.fault with
    | some f => ([v], some f, [])
    | none =>
      let (vs, f, rest) := scanItems fuel false rest
      (v :: vs, f, rest)

/-- Scan the members of an object, from behind the brace or from behind a member. -/
def scanMembers : Nat → Bool → List Char → List (Node × Node) × Option Fault × List Char
  | 0, _, _ => ([], some .objectCut, [])
  | fuel + 1, first, cs =>
    match skipBlank cs with
    | [] => ([], some .objectCut, [])
    | '\x7d' :: r => ([], none, r)
    | c :: r =>
      if first then scanMember fuel (c :: r)
      else if c = ',' then
        match skipBlank r with
        | [] => ([], some .keyCut, [])
        | '\x7d' :: _ => ([], some .objectTrailingComma, [])
        | r => scanMember fuel r
      else ([], some .objectComma, [])

/-- Scan one member and those behind it. -/
def scanMember : Nat → List Char → List (Node × Node) × Option Fault × List Char
  | 0, _ => ([], some .objectCut, [])
  | fuel + 1, cs =>
    let (key, rest) := scanValue fuel cs
    match key with
    | .string s =>
      match s.fault with
      | some f => keyOnly key f
      | none =>
        match skipBlank rest with
        | [] => keyOnly key .colonCut
        | ':' :: r =>
          let (v, rest) := scanValue fuel r
          match v.fault with
          | some f => ([(key, v)], some f, [])
          | none =>
            let (ms, f, rest) := scanMembers fuel false rest
            ((key, v) :: ms, f, rest)
        | _ => keyOnly key .colonMissing
    | key => keyOnly key .keyNotString

end

/-- Scan the first value of a text. -/
def scan (cs : List Char) : Node × List Char := scanValue (4 * cs.length + 4) cs

end Node

/-- A text as one value, and whether anything but blanks stands behind it. -/
structure Document where
  /-- The value. -/
  root : Node
  /-- Whether the text goes on behind the value. -/
  trailing : Bool

/-- Scan a whole text. -/
def Document.scan (cs : List Char) : Document :=
  let (v, rest) := Node.scan cs
  ⟨v, !(Node.skipBlank rest).isEmpty⟩

end BookFeed.Json
