import BookFeed.Json.Fault
import BookFeed.Double.Basic

set_option autoImplicit false

/-!
# JSON numbers

A number is scanned into its digits. Its value is an integer where there is neither a fraction
nor an exponent and it fits into 64 bits, and a double otherwise. The digits of a double are
collected in 64 bits: from the first digit on that has no room, digits before the point only
raise the power of ten, and digits behind it are dropped.

## Main definitions

* `BookFeed.Json.Numeral` — the digits of a number.
* `BookFeed.Json.Numeral.scan` — scanning.
* `BookFeed.Json.NumberValue` — the value of a number.
* `BookFeed.Json.Numeral.value?` — its computation.
-/

namespace BookFeed.Json

/-- A number as it stands in a text. -/
structure Numeral where
  /-- Whether a minus stands first. -/
  negative : Bool
  /-- The digits before the point. -/
  whole : List Char
  /-- The digits behind the point; none if there is no point. -/
  fraction : List Char
  /-- The sign and the digits of the exponent. -/
  exponent : Option (Bool × List Char)
deriving DecidableEq, Repr

namespace Numeral

/-! ### Scanning -/

/-- Whether a character is a decimal digit. -/
def isDigit (c : Char) : Bool := '0' ≤ c && c ≤ '9'

/-- One or more digits. -/
def scanDigits (cs : List Char) : Except Fault (List Char × List Char) :=
  match cs with
  | [] => .error .numberCut
  | c :: _ =>
    if isDigit c then .ok (cs.takeWhile isDigit, cs.dropWhile isDigit) else .error .badNumber

/-- The digits before the point: no zero stands before another digit. -/
def scanWhole (cs : List Char) : Except Fault (List Char × List Char) :=
  match cs with
  | '0' :: c :: r => if isDigit c then .error .badNumber else .ok (['0'], c :: r)
  | cs => scanDigits cs

/-- The point and the digits behind it, if there is a point. -/
def scanFraction (cs : List Char) : Except Fault (List Char × List Char) :=
  match cs with
  | '.' :: r => scanDigits r
  | cs => .ok ([], cs)

/-- The sign of an exponent; plus is the default. -/
def scanSign : List Char → Bool × List Char
  | '-' :: r => (true, r)
  | '+' :: r => (false, r)
  | cs => (false, cs)

/-- The exponent, if there is one. -/
def scanExponent (cs : List Char) : Except Fault (Option (Bool × List Char) × List Char) :=
  match cs with
  | c :: r =>
    if c = 'e' ∨ c = 'E' then do
      let (negative, r) := scanSign r
      let (ds, r) ← scanDigits r
      return (some (negative, ds), r)
    else .ok (none, cs)
  | [] => .ok (none, [])

/-- Scan a number; the rest starts behind its last digit. -/
def scan (cs : List Char) : Except Fault (Numeral × List Char) := do
  let (negative, r) := match cs with
    | '-' :: r => (true, r)
    | r => (false, r)
  let (whole, r) ← scanWhole r
  let (fraction, r) ← scanFraction r
  let (exponent, r) ← scanExponent r
  return (⟨negative, whole, fraction, exponent⟩, r)

end Numeral

/-! ### Values -/

/-- The value of a number. -/
inductive NumberValue where
  /-- A non-negative integer of 64 bits. -/
  | natural (n : Nat)
  /-- A negative integer of 64 bits with sign. -/
  | negative (n : Int)
  /-- Any other number. -/
  | float (x : Double)
deriving DecidableEq, Repr

namespace Numeral

/-- One more than the greatest number that digits are collected in. -/
def collectBound : Nat := 18446744073709551616

/-- The value of a decimal digit. -/
def digitValue (c : Char) : Nat := c.toNat - '0'.toNat

/-- Collect digits into a number as long as it stays below the bound; the digits from the first
one on that has no room are returned. -/
def collect (start : Nat) : List Char → Nat × List Char
  | [] => (start, [])
  | c :: cs =>
    let n := start * 10 + digitValue c
    if n < collectBound then collect n cs else (start, c :: cs)

/-- The value of the exponent. -/
def exponentValue (e : Bool × List Char) : Int :=
  let n := e.2.foldl (fun n c => n * 10 + digitValue c) 0
  if e.1 then -(n : Int) else n

/-- The number as a double, or nothing if it is out of range. -/
def double? (n : Numeral) : Option Double :=
  let (front, dropped) := collect 0 n.whole
  let (digits, ignored) := collect front n.fraction
  let power : Int := (dropped.length : Int) - ((n.fraction.length : Int) - ignored.length) +
    (n.exponent.map exponentValue).getD 0
  Double.ofDecimalParts n.negative digits power

/-- The value of a number, or nothing if it is out of range. -/
def value? (n : Numeral) : Option NumberValue :=
  match collect 0 n.whole, n.fraction, n.exponent with
  | (k, []), [], none =>
    if n.negative then
      if 0 < k ∧ k ≤ 9223372036854775808 then some (.negative (-(k : Int)))
      else n.double?.map .float
    else some (.natural k)
  | _, _, _ => n.double?.map .float

end Numeral

end BookFeed.Json
