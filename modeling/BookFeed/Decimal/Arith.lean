import BookFeed.Decimal.Basic
import BookFeed.Rounding

set_option autoImplicit false

/-!
# Arithmetic on decimals

Sums and differences are exact at the larger of the two scales. Where the exact coefficient does
not fit, the least number of fraction digits that makes it fit is dropped, rounding half to
even; a number that does not fit without fraction digits has no sum. A zero operand leaves the
other one untouched, with its own scale.

## Main definitions

* `BookFeed.Decimal.fit` — the coefficient with as few digits dropped as the format forces.
* `BookFeed.Decimal.add`, `BookFeed.Decimal.sub`, `BookFeed.Decimal.sum` — sums.
* `BookFeed.Decimal.half` — one half of a number.
-/

namespace BookFeed.Decimal

/-! ### Fitting -/

/-- The coefficient `c` at scale `s`, with the fewest digits dropped such that it fits. -/
def fit (c : Int) (s : Nat) : Option Decimal :=
  (List.range (s + 1)).findSome? fun k => ofCoefficient? (Rounding.intToEven c (tenPow k)) (s - k)

/-! ### Sums and differences -/

/-- The coefficient of `d` at the scale `s`, which is at least that of `d`. -/
def coefficientAt (d : Decimal) (s : Nat) : Int := d.coefficient * tenPow (s - d.scale)

/-- The sum, or nothing if it is out of range. -/
def add (a b : Decimal) : Option Decimal :=
  if a.isZero then some b
  else if b.isZero then some a
  else
    let s := max a.scale b.scale
    fit (a.coefficientAt s + b.coefficientAt s) s

/-- The difference, or nothing if it is out of range. -/
def sub (a b : Decimal) : Option Decimal :=
  if a.isZero then some b.neg
  else if b.isZero then some a
  else
    let s := max a.scale b.scale
    fit (a.coefficientAt s - b.coefficientAt s) s

/-- The sum of a list from the left, starting from zero. -/
def sum (ds : List Decimal) : Option Decimal :=
  ds.foldlM add zero

/-! ### Halving -/

/-- Divide the coefficient by `10 ^ k` and lower the scale by `k`, where that is exact. The test
on the divisor `d` of the coefficient comes first. -/
def stripDigits (d : Nat) (k : Nat) (x : Int × Nat) : Int × Nat :=
  if x.1 % d = 0 ∧ k ≤ x.2 ∧ x.1 % tenPow k = 0 then (x.1 / tenPow k, x.2 - k) else x

/-- Remove fraction zeros in steps of eight, four, two and one digits. A step is tried only
where the coefficient is divisible by the power of two beside it: `2 ^ 32`, `16`, `4` and
`2`. -/
def stripZeros (x : Int × Nat) : Int × Nat :=
  let eights := (List.range 3).foldl (fun y _ => stripDigits (twoPow 32) 8 y) x
  stripDigits 2 1 (stripDigits 4 2 (stripDigits 16 4 eights))

/-- How many digits an odd coefficient `c` at scale `s` gains when it is halved: nine, or as
many as the scale and the coefficient have room for. -/
def halvingDigits (c : Int) (s : Nat) : Nat :=
  ((List.range 10).filter fun k =>
    k + s ≤ maxScale ∧ c.natAbs * tenPow k / 2 ≤ maxCoefficient).foldl max 0

/-- One half of the number. An even coefficient is halved at its scale. An odd one is first
extended by fraction digits, or rounded half to even where there is no room, and fraction zeros
are then removed. -/
def half (d : Decimal) : Option Decimal :=
  if d.isZero then some zero
  else if d.coefficient % 2 = 0 then ofCoefficient? (d.coefficient / 2) d.scale
  else
    let k := halvingDigits d.coefficient d.scale
    let x := stripZeros (Rounding.intToEven (d.coefficient * tenPow k) 2, d.scale + k)
    ofCoefficient? x.1 x.2

end BookFeed.Decimal
