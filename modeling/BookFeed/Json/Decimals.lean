import BookFeed.Decimal.Text
import BookFeed.Json.Reader
import BookFeed.Json.Value

set_option autoImplicit false

/-!
# Decimals in JSON

A decimal is written as a string. It is read from a string or from a number; a number with a
fraction or an exponent is taken as the shortest decimal of its double.

## Main definitions

* `BookFeed.Json.Reader.decimal` — reading.
* `BookFeed.Json.Value.ofDecimal` — writing.
-/

namespace BookFeed.Json

namespace Reader

/-- What messages call a decimal. -/
def decimalName : String := "a Decimal type representing a fixed-point number"

/-- The decimal of a text that stands for what was found. -/
def decimalText (found : Found) (cs : List Char) : Except Error Decimal :=
  match Decimal.read cs with
  | .ok d => .ok d
  | .error _ => .error (.wrongValue found decimalName)

/-- An integer of 64 bits as a decimal. -/
def decimalInteger (n : Int) : Except Error Decimal :=
  match Decimal.ofCoefficient? n 0 with
  | some d => .ok d
  | none => .error (.wrongValue (.integer n) decimalName)

/-- Read a decimal. -/
def decimal : Reader Decimal
  | .string s => do
    let cs ← s.text
    decimalText (.string cs) cs
  | .number n => do
    match ← n.value with
    | .natural k => decimalInteger k
    | .negative k => decimalInteger k
    | .float x => decimalText (.float x) x.plainText
  | n => .error (n.mismatch decimalName)

end Reader

/-- A decimal as a string. -/
def Value.ofDecimal (d : Decimal) : Value := .string d.text

end BookFeed.Json
