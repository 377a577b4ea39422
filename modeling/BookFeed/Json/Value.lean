import BookFeed.Json.Quoted

set_option autoImplicit false

/-!
# Writing JSON

A value is written without blanks; members and elements stand in their order.

## Main definitions

* `BookFeed.Json.Value` — a value.
* `BookFeed.Json.Value.text` — its written form.
-/

namespace BookFeed.Json

/-- A value to be written. -/
inductive Value where
  /-- The word `null`. -/
  | null
  /-- The words `true` and `false`. -/
  | bool (b : Bool)
  /-- An integer. -/
  | integer (n : Int)
  /-- A string. -/
  | string (cs : List Char)
  /-- An array. -/
  | array (items : List Value)
  /-- An object. -/
  | object (members : List (List Char × Value))
deriving Repr, Inhabited

namespace Value

/-- A string from a text. -/
def ofString (s : String) : Value := .string s.toList

/-- A value that may be absent. -/
def ofOption {α : Type} (f : α → Value) : Option α → Value
  | none => .null
  | some a => f a

/-- The decimal form of an integer. -/
def integerText (n : Int) : List Char :=
  if n < 0 then '-' :: Nat.toDigits 10 n.natAbs else Nat.toDigits 10 n.natAbs

mutual

/-- The written form of a value. -/
def text : Value → List Char
  | .null => ['n', 'u', 'l', 'l']
  | .bool true => ['t', 'r', 'u', 'e']
  | .bool false => ['f', 'a', 'l', 's', 'e']
  | .integer n => integerText n
  | .string cs => escape cs
  | .array items => '[' :: itemsText items ++ [']']
  | .object members => '\x7b' :: membersText members ++ ['\x7d']

/-- Elements with commas between them. -/
def itemsText : List Value → List Char
  | [] => []
  | [v] => v.text
  | v :: w :: vs => v.text ++ ',' :: itemsText (w :: vs)

/-- Members with commas between them. -/
def membersText : List (List Char × Value) → List Char
  | [] => []
  | [m] => memberText m
  | m :: k :: ms => memberText m ++ ',' :: membersText (k :: ms)

/-- A key, a colon and a value. -/
def memberText : List Char × Value → List Char
  | (key, v) => escape key ++ ':' :: v.text

end

/-- The written form as a string. -/
def toText (v : Value) : String := String.ofList v.text

end Value

end BookFeed.Json
