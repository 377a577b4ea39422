import BookFeed.Power

set_option autoImplicit false

/-!
# Decimal numbers with a stated scale

A decimal is a coefficient together with the number of its fraction digits, so `100` and
`100.00` are two different decimals that denote one number. The coefficient has at most 96 bits
of magnitude and there are at most 28 fraction digits. Zero has no sign.

## Main definitions

* `BookFeed.Decimal` — coefficient and scale with their bounds.
* `BookFeed.Decimal.ofCoefficient?` — the decimal with a given coefficient and scale, if it is
  in range.
* `BookFeed.Decimal.value` — the rational number that a decimal denotes.
* `BookFeed.Decimal.compare` — numeric comparison, whatever the two scales are.
-/

namespace BookFeed

/-- A coefficient and the number of its fraction digits. -/
structure Decimal where
  /-- The number without its point. -/
  coefficient : Int
  /-- How many digits of the coefficient stand behind the point. -/
  scale : Nat
  /-- The magnitude of the coefficient fits into 96 bits. -/
  natAbs_lt : coefficient.natAbs < 79228162514264337593543950336
  /-- There are at most 28 fraction digits. -/
  scale_le : scale ≤ 28
deriving DecidableEq, Repr

namespace Decimal

/-- The greatest number of fraction digits. -/
def maxScale : Nat := 28

/-- The greatest magnitude of a coefficient. -/
def maxCoefficient : Nat := 79228162514264337593543950335

/-- The decimal with coefficient `c` and scale `s`, if both are in range. -/
def ofCoefficient? (c : Int) (s : Nat) : Option Decimal :=
  if h : c.natAbs < 79228162514264337593543950336 ∧ s ≤ 28 then some ⟨c, s, h.1, h.2⟩
  else none

/-- Zero is in range. -/
theorem zero_in_range : 0 < 79228162514264337593543950336 := by decide

/-- No fraction digits are few enough. -/
theorem no_fraction : 0 ≤ 28 := by decide

/-- Zero without fraction digits. -/
def zero : Decimal := ⟨0, 0, zero_in_range, no_fraction⟩

instance : Inhabited Decimal := ⟨zero⟩

/-- An integer is a decimal without fraction digits. -/
def ofInt (n : Int) (h : n.natAbs < 79228162514264337593543950336) : Decimal :=
  ⟨n, 0, h, no_fraction⟩

/-- The rational number that a decimal denotes. -/
def value (d : Decimal) : Rat := mkRat d.coefficient (tenPow d.scale)

/-- Whether the decimal denotes zero. -/
def isZero (d : Decimal) : Bool := d.coefficient == 0

/-- The number with the other sign, at the same scale. -/
def neg (d : Decimal) : Decimal :=
  ⟨-d.coefficient, d.scale, by simpa using d.natAbs_lt, d.scale_le⟩

/-- Numeric comparison: both coefficients are brought to a common scale. -/
def compare (a b : Decimal) : Ordering :=
  Ord.compare (a.coefficient * tenPow b.scale) (b.coefficient * tenPow a.scale)

/-- Whether two decimals denote one number. -/
def same (a b : Decimal) : Bool := a.compare b == .eq

end Decimal

end BookFeed
