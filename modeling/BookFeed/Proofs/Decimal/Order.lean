import Mathlib.Algebra.Order.Field.Rat
import Mathlib.Order.Compare
import BookFeed.Decimal.Basic

set_option autoImplicit false

/-!
# Decimals compare as the numbers they denote

Comparison brings two coefficients to a common scale. It decides the order of the two rational
numbers, so spellings of one number are told apart by nothing that compares.

## Main results

* `BookFeed.Decimal.compare_eq_lt_iff`, `compare_eq_eq_iff`, `compare_eq_gt_iff` — the three
  answers of a comparison.
* `BookFeed.Decimal.same_iff` — two decimals are the same iff they denote one number.
* `BookFeed.Decimal.isZero_iff` — a decimal is zero iff it denotes zero.
-/

namespace BookFeed.Decimal

/-- A coefficient with a scale, or zero where they are out of range. -/
def orZero (coefficient : Int) (scale : Nat) : Decimal :=
  (ofCoefficient? coefficient scale).getD zero

/-- A decimal denotes its coefficient over a power of ten. -/
theorem value_eq_div (d : Decimal) : d.value = (d.coefficient : ℚ) / (tenPow d.scale : ℕ) :=
  Rat.mkRat_eq_div ..

/-- A power of ten is positive as a rational number. -/
theorem tenPow_cast_pos (n : ℕ) : (0 : ℚ) < (tenPow n : ℕ) := Nat.cast_pos.2 (tenPow_pos n)

/-- So a power of ten can be cancelled. -/
theorem tenPow_cast_ne_zero (n : ℕ) : ((tenPow n : ℕ) : ℚ) ≠ 0 := (tenPow_cast_pos n).ne'

/-- Scaled to each other's power of ten, coefficients are ordered as the numbers are. -/
private theorem scaled_lt_iff (a b : Decimal) :
    a.coefficient * tenPow b.scale < b.coefficient * tenPow a.scale ↔ a.value < b.value := by
  rw [value_eq_div, value_eq_div,
    div_lt_div_iff₀ (tenPow_cast_pos a.scale) (tenPow_cast_pos b.scale)]
  exact_mod_cast Iff.rfl

/-- A comparison answers "less" iff the number is less. -/
theorem compare_eq_lt_iff (a b : Decimal) : a.compare b = .lt ↔ a.value < b.value := by
  rw [← scaled_lt_iff]
  exact compare_lt_iff_lt

/-- A comparison answers "greater" iff the number is greater. -/
theorem compare_eq_gt_iff (a b : Decimal) : a.compare b = .gt ↔ b.value < a.value := by
  rw [← scaled_lt_iff]
  exact compare_gt_iff_gt

/-- A comparison answers "equal" iff both denote one number. -/
theorem compare_eq_eq_iff (a b : Decimal) : a.compare b = .eq ↔ a.value = b.value := by
  have hlt := compare_eq_lt_iff a b
  have hgt := compare_eq_gt_iff a b
  cases h : a.compare b with
  | lt => simpa using (hlt.1 h).ne
  | gt => simpa using (hgt.1 h).ne'
  | eq =>
    rw [h] at hlt hgt
    have h₁ : ¬ a.value < b.value := by simpa using hlt
    have h₂ : ¬ b.value < a.value := by simpa using hgt
    simpa using le_antisymm (not_lt.1 h₂) (not_lt.1 h₁)

/-- Two decimals are the same iff they denote one number. -/
@[simp] theorem same_iff (a b : Decimal) : a.same b = true ↔ a.value = b.value := by
  simp [same, ← compare_eq_eq_iff]

/-- A decimal is zero iff it denotes zero. -/
theorem isZero_iff (d : Decimal) : d.isZero = true ↔ d.value = 0 := by
  have hpow := tenPow_cast_ne_zero d.scale
  rw [value_eq_div, div_eq_zero_iff]
  simp [isZero, hpow]

end BookFeed.Decimal
