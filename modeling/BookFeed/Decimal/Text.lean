import BookFeed.Decimal.Basic

set_option autoImplicit false

/-!
# Decimals as text

A decimal is written with exactly as many fraction digits as its scale says. It is read from an
optional sign and digits with at most one point; underscores between digits are ignored. Digits
behind the point that the format has no room for are rounded, half away from zero. A text that
is not of this form may still carry an exponent.

## Main definitions

* `BookFeed.Decimal.text` — the written form.
* `BookFeed.Decimal.ReadError` — what can be wrong with a text, and its wording.
* `BookFeed.Decimal.readPlain` — reading without exponent.
* `BookFeed.Decimal.read` — reading, with an exponent as the second try.
-/

namespace BookFeed.Decimal

/-! ### Writing -/

/-- The decimal digits of `n`, with leading zeros up to the given width. -/
def paddedDigits (width n : Nat) : List Char :=
  let ds := Nat.toDigits 10 n
  List.replicate (width - ds.length) '0' ++ ds

/-- The written form: an optional minus, the whole digits, and a point before the fraction
digits if there are any. -/
def text (d : Decimal) : List Char :=
  let ds := paddedDigits (d.scale + 1) d.coefficient.natAbs
  let whole := ds.take (ds.length - d.scale)
  let fraction := ds.drop (ds.length - d.scale)
  (if d.coefficient < 0 then ['-'] else []) ++ whole ++
    (if d.scale = 0 then [] else '.' :: fraction)

instance : ToString Decimal := ⟨fun d => String.ofList d.text⟩

/-! ### Faults -/

/-- Why a text is not a decimal. -/
inductive ReadError where
  /-- There is no text. -/
  | empty
  /-- A second point. -/
  | twoPoints
  /-- An underscore before the first digit. -/
  | leadingUnderscore
  /-- A character that no decimal has at this place. -/
  | unknownCharacter
  /-- The text ends without a digit. -/
  | noDigits
  /-- The digits before the point are too many. -/
  | tooManyDigits
  /-- Rounding up leaves the range and there is no fraction digit to give up. -/
  | roundingOverflow
  /-- The exponent is not a number. -/
  | badExponent
  /-- The exponent asks for more fraction digits than there are. -/
  | scaleTooLarge (exponent : Nat)
  /-- The exponent makes the number too large. -/
  | tooLarge
deriving DecidableEq, Repr

/-- The wording of a fault. -/
def ReadError.message : ReadError → String
  | .empty => "Invalid decimal: empty"
  | .twoPoints => "Invalid decimal: two decimal points"
  | .leadingUnderscore => "Invalid decimal: must start lead with a number"
  | .unknownCharacter => "Invalid decimal: unknown character"
  | .noDigits => "Invalid decimal: no digits found"
  | .tooManyDigits => "Invalid decimal: overflow from too many digits"
  | .roundingOverflow => "Invalid decimal: overflow from mantissa after rounding"
  | .badExponent => "Failed to parse"
  | .scaleTooLarge e => s!"Scale exceeds the maximum precision allowed: {e} > 28"
  | .tooLarge => "Number exceeds maximum value that can be represented."

/-! ### Reading without exponent -/

/-- The value of a decimal digit. -/
def digit? (c : Char) : Option Nat :=
  if '0' ≤ c ∧ c ≤ '9' then some (c.toNat - '0'.toNat) else none

/-- What has been read of a number so far. -/
structure Reading where
  /-- The digits so far, as a number. -/
  mantissa : Nat := 0
  /-- How many of them stand behind the point. -/
  scale : Nat := 0
  /-- Whether the point has been met. -/
  point : Bool := false
  /-- Whether a digit has been met. -/
  started : Bool := false
  /-- The mantissa is in range. -/
  mantissa_lt : mantissa < 79228162514264337593543950336
  /-- The scale is in range. -/
  scale_le : scale ≤ 28

/-- Nothing has been read. -/
def Reading.start : Reading where
  mantissa_lt := zero_in_range
  scale_le := no_fraction

/-- The number read, with its sign. -/
def Reading.toDecimal (r : Reading) (negative : Bool) : Decimal where
  coefficient := if negative then -(r.mantissa : Int) else r.mantissa
  scale := r.scale
  natAbs_lt := by split <;> simpa using r.mantissa_lt
  scale_le := r.scale_le

/-- Behind the last digit that counts only digits and underscores may follow. -/
def checkTail : List Char → Except ReadError Unit
  | [] => .ok ()
  | c :: cs =>
    if (digit? c).isSome ∨ c = '_' then checkTail cs
    else if c = '.' then .error .twoPoints
    else .error .unknownCharacter

/-- Round by the first digit that has no room: from five on, away from zero. If that leaves the
range, the last fraction digit is given up. -/
def Reading.round (r : Reading) (digit : Nat) : Except ReadError Reading :=
  if digit < 5 then .ok r
  else if h : r.mantissa + 1 < 79228162514264337593543950336 then
    .ok { r with mantissa := r.mantissa + 1, mantissa_lt := h }
  else if r.scale = 0 then .error .roundingOverflow
  else .ok
    { r with
      mantissa := (r.mantissa + 1 + 4) / 10
      scale := r.scale - 1
      mantissa_lt := by have := r.mantissa_lt; omega
      scale_le := by have := r.scale_le; omega }

/-- An underscore in the rounding position stands for a zero while the mantissa without its last
digit is below this bound; from there on it is ignored like any other. -/
def narrowBound : Nat := (twoPow 64 - 1) / 10 - 255

/-- Whether the reading holds all fraction digits it may and is still narrow. -/
def Reading.roundsAtUnderscore (r : Reading) : Bool :=
  r.point && r.scale == maxScale && r.mantissa / 10 < narrowBound

/-- Read the characters behind the sign. The first fault from the left decides. -/
def readDigits (negative : Bool) : List Char → Reading → Except ReadError Decimal
  | [], r => if r.started then .ok (r.toDecimal negative) else .error .noDigits
  | c :: cs, r =>
    match digit? c with
    | some d =>
      let finish : Except ReadError Decimal := do
        let rounded ← r.round d
        checkTail cs
        return rounded.toDecimal negative
      if h : 10 * r.mantissa + d < 79228162514264337593543950336 then
        if r.point then
          if hs : r.scale + 1 ≤ 28 then
            readDigits negative cs
              { mantissa := 10 * r.mantissa + d, scale := r.scale + 1, point := true,
                started := true, mantissa_lt := h, scale_le := hs }
          else finish
        else
          readDigits negative cs
            { mantissa := 10 * r.mantissa + d, scale := r.scale, point := false,
              started := true, mantissa_lt := h, scale_le := r.scale_le }
      else if r.point then finish
      else .error .tooManyDigits
    | none =>
      if c = '.' then
        if r.point then .error .twoPoints else readDigits negative cs { r with point := true }
      else if c = '_' then
        if r.started then
          if r.roundsAtUnderscore then do
            checkTail cs
            return r.toDecimal negative
          else readDigits negative cs r
        else .error .leadingUnderscore
      else .error .unknownCharacter

/-- Read an optional sign, then digits with at most one point. -/
def readPlain : List Char → Except ReadError Decimal
  | [] => .error .empty
  | '-' :: cs => readDigits true cs .start
  | '+' :: cs => readDigits false cs .start
  | cs => readDigits false cs .start

/-! ### Reading with exponent -/

/-- Whether a character opens the exponent. -/
def isExponentMark (c : Char) : Bool := c == 'e' || c == 'E'

/-- A natural number in decimal digits, at least one, below `2 ^ bits`; one plus sign may stand
before it. -/
def readNat (bits : Nat) (cs : List Char) : Option Nat :=
  let ds := match cs with
    | '+' :: r => r
    | r => r
  if ds.isEmpty then none
  else do
    let n ← ds.foldlM (fun n c => do return 10 * n + (← digit? c)) 0
    if n < twoPow bits then some n else none

/-- The coefficient divided by `10 ^ k`, half away from zero. -/
def roundAway (c : Int) (k : Nat) : Int :=
  let q : Nat := (c.natAbs + tenPow k / 2) / tenPow k
  if c < 0 then -(q : Int) else q

/-- The number divided by `10 ^ e`: the scale grows by `e`, and digits beyond the greatest scale
are rounded away first. -/
def scaleDown (d : Decimal) (e : Nat) : Except ReadError Decimal :=
  if maxScale < e then .error (.scaleTooLarge e)
  else
    let excess := d.scale + e - maxScale
    match ofCoefficient? (roundAway d.coefficient excess) (d.scale + e - excess) with
    | some r => .ok r
    | none => .error .tooLarge

/-- The number times `10 ^ e`: the scale shrinks by `e`, or the coefficient grows. -/
def scaleUp (d : Decimal) (e : Nat) : Except ReadError Decimal :=
  if e ≤ d.scale then
    .ok { d with scale := d.scale - e, scale_le := by have := d.scale_le; omega }
  else if maxScale < e then .error (.scaleTooLarge e)
  else
    match ofCoefficient? (d.coefficient * tenPow (e - d.scale)) 0 with
    | some r => .ok r
    | none => .error .tooLarge

/-- Read a base, an exponent mark and an exponent. -/
def readScientific (cs : List Char) : Except ReadError Decimal := do
  let base ← readPlain (cs.takeWhile (!isExponentMark ·))
  let exponent := (cs.dropWhile (!isExponentMark ·)).drop 1
  let (down, digits) := match exponent with
    | '-' :: r => (true, r)
    | r => (false, r)
  match readNat 32 digits with
  | none => .error .badExponent
  | some e => if down then base.scaleDown e else base.scaleUp e

/-- Read a decimal. Where the plain form fails and there is an exponent mark, the outcome is
that of the form with exponent. -/
def read (cs : List Char) : Except ReadError Decimal :=
  match readPlain cs with
  | .ok d => .ok d
  | .error e => if cs.any isExponentMark then readScientific cs else .error e

end BookFeed.Decimal
