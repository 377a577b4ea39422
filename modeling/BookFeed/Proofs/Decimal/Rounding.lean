import Mathlib.Algebra.Order.Ring.Cast
import Mathlib.Algebra.Order.Ring.Int
import Mathlib.Data.Int.Cast.Lemmas
import Mathlib.Tactic.FieldSimp
import BookFeed.Decimal.Arith
import BookFeed.Proofs.Decimal.Order

set_option autoImplicit false

/-!
# What rounding cannot do

A sum that has no room gives up fraction digits, one at a time, until it has. Rounding moves a
number by at most half of the last digit that is kept, and a digit is given up only if what was
there before had more than 96 bits. So what is left is far from zero: rounding changes neither
the sign of a sum nor whether it is zero.

## Main results

* `BookFeed.Rounding.two_mul_toEven_bounds` — a rounded quotient is off by at most one half.
* `BookFeed.Decimal.exists_of_fit` — how many digits are given up.
* `BookFeed.Decimal.sign_fit` — what has been made to fit has the sign of the exact number.
* `BookFeed.Decimal.sign_sub` — so has a difference.
-/

namespace BookFeed.Rounding

theorem toEven_one (n : ℕ) : toEven n 1 = n := by simp [toEven, Nat.mod_one]

/-- A rounded quotient is off by at most one half. -/
theorem two_mul_toEven_bounds (n : ℕ) {d : ℕ} (hd : 0 < d) :
    2 * (d * toEven n d) ≤ 2 * n + d ∧ 2 * n ≤ 2 * (d * toEven n d) + d := by
  have hsplit := Nat.div_add_mod n d
  have hlt := Nat.mod_lt n hd
  have hsucc : d * (n / d + 1) = d * (n / d) + d := Nat.mul_succ d (n / d)
  unfold toEven
  dsimp only
  split_ifs <;> omega

theorem natAbs_intToEven (c : ℤ) (d : ℕ) : (intToEven c d).natAbs = toEven c.natAbs d := by
  unfold intToEven
  split <;> simp

theorem intToEven_one (c : ℤ) : intToEven c 1 = c := by
  rw [intToEven, toEven_one]
  split <;> omega

/-- What is not rounded to zero keeps its sign. -/
theorem sign_intToEven {c : ℤ} {d : ℕ} (h : 0 < toEven c.natAbs d) :
    (intToEven c d).sign = c.sign := by
  unfold intToEven
  split
  · next hneg =>
      rw [Int.sign_neg, Int.sign_natCast_of_ne_zero h.ne', Int.sign_eq_neg_one_of_neg hneg]
  · next hnonneg =>
    have hc : c ≠ 0 := by
      rintro rfl
      simp [toEven] at h
    rw [Int.sign_natCast_of_ne_zero h.ne', Int.sign_eq_one_of_pos (by omega)]

/-- A quotient that is at least ten is not rounded to zero when it is divided by ten once
more. -/
theorem toEven_mul_ten_pos {n d : ℕ} (hd : 0 < d) (h : 10 ≤ toEven n d) :
    0 < toEven n (d * 10) := by
  have hbefore := (two_mul_toEven_bounds n hd).1
  have hafter := (two_mul_toEven_bounds n (Nat.mul_pos hd (by decide : 0 < 10))).2
  have hlarge : d * 10 ≤ d * toEven n d := Nat.mul_le_mul_left d h
  refine Nat.pos_of_ne_zero fun hzero => ?_
  rw [hzero] at hafter
  omega

end BookFeed.Rounding

namespace BookFeed.Decimal

open Rounding

/-! ### Making room -/

theorem ofCoefficient?_eq_some_iff {c : ℤ} {s : ℕ} {r : Decimal} :
    ofCoefficient? c s = some r ↔ r.coefficient = c ∧ r.scale = s := by
  unfold ofCoefficient?
  constructor
  · intro h
    split at h
    · cases h
      exact ⟨rfl, rfl⟩
    · cases h
  · rintro ⟨rfl, rfl⟩
    exact dif_pos ⟨r.natAbs_lt, r.scale_le⟩

theorem ofCoefficient?_eq_none_iff {c : ℤ} {s : ℕ} (hs : s ≤ 28) :
    ofCoefficient? c s = none ↔ 79228162514264337593543950336 ≤ c.natAbs := by
  simp [ofCoefficient?, hs]

/-- The fewest digits are given up: with one digit more the number would have had no room. -/
theorem exists_of_fit {c : ℤ} {s : ℕ} {r : Decimal} (hs : s ≤ 28) (h : fit c s = some r) :
    ∃ k ≤ s, r.coefficient = intToEven c (tenPow k) ∧ r.scale = s - k ∧
      ∀ j < k, 79228162514264337593543950336 ≤ toEven c.natAbs (tenPow j) := by
  obtain ⟨before, k, after, hrange, hk, hbefore⟩ := List.findSome?_eq_some_iff.1 h
  have hmem : k ∈ List.range (s + 1) := hrange ▸ List.mem_append_right before List.mem_cons_self
  obtain ⟨hcoefficient, hscale⟩ := ofCoefficient?_eq_some_iff.1 hk
  refine ⟨k, Nat.lt_succ_iff.1 (List.mem_range.1 hmem), hcoefficient, hscale, fun j hj => ?_⟩
  have hascending : (List.range (s + 1)).Pairwise (· < ·) := List.pairwise_lt_range
  have hj' : j ∈ before := by
    have hjs : j ∈ before ++ k :: after := by
      rw [← hrange, List.mem_range]
      have := List.mem_range.1 hmem
      omega
    rw [hrange, List.pairwise_append, List.pairwise_cons] at hascending
    rcases List.mem_append.1 hjs with hj' | hj'
    · exact hj'
    · rcases List.mem_cons.1 hj' with rfl | hj'
      · exact absurd hj (Nat.lt_irrefl j)
      · exact absurd (hascending.2.1.1 j hj') (Nat.not_lt.2 hj.le)
  rw [← natAbs_intToEven, ← ofCoefficient?_eq_none_iff (s := s - j) (by omega)]
  exact hbefore j hj'

/-- **Rounding does not change signs.** What has been made to fit has the sign of the exact
number.

**Proof sketch.** If no digit is given up, nothing is rounded. Otherwise the number had more
than 96 bits with one digit more, so that it is not rounded to zero. -/
theorem sign_fit {c : ℤ} {s : ℕ} {r : Decimal} (hs : s ≤ 28) (h : fit c s = some r) :
    r.coefficient.sign = c.sign := by
  obtain ⟨k, -, hcoefficient, -, hroom⟩ := exists_of_fit hs h
  rw [hcoefficient]
  cases k with
  | zero => rw [tenPow_zero, intToEven_one]
  | succ k =>
    have hlarge := hroom k (Nat.lt_succ_self k)
    exact sign_intToEven (toEven_mul_ten_pos (tenPow_pos k) (Nat.le_trans (by decide) hlarge))

/-! ### Differences -/

theorem lt_zero_iff_of_sign_eq {c e : ℤ} (h : c.sign = e.sign) : c < 0 ↔ e < 0 := by
  rw [← Int.sign_eq_neg_one_iff_neg, h, Int.sign_eq_neg_one_iff_neg]

theorem eq_zero_iff_of_sign_eq {c e : ℤ} (h : c.sign = e.sign) : c = 0 ↔ e = 0 := by
  rw [← Int.sign_eq_zero_iff_zero, h, Int.sign_eq_zero_iff_zero]

theorem value_neg_iff (d : Decimal) : d.value < 0 ↔ d.coefficient < 0 := by
  rw [value_eq_div, div_lt_iff₀ (tenPow_cast_pos _), zero_mul]
  exact Int.cast_lt_zero

theorem value_eq_zero_iff (d : Decimal) : d.value = 0 ↔ d.coefficient = 0 := by
  rw [← isZero_iff, isZero, beq_iff_eq]

theorem value_neg (d : Decimal) : d.neg.value = -d.value := by
  rw [value_eq_div, value_eq_div, ← neg_div]
  simp [neg]

theorem coefficientAt_cast (d : Decimal) {s : ℕ} (hs : d.scale ≤ s) :
    (d.coefficientAt s : ℚ) = d.value * (tenPow s : ℕ) := by
  obtain ⟨k, rfl⟩ := Nat.exists_eq_add_of_le hs
  have hne := tenPow_cast_ne_zero d.scale
  rw [coefficientAt, Nat.add_sub_cancel_left, tenPow_add, value_eq_div]
  push_cast
  field_simp

/-- The exact difference of two coefficients is negative, or zero, just if that of the numbers
is. -/
theorem sign_coefficientAt_sub {a b : Decimal} {s : ℕ} (ha : a.scale ≤ s) (hb : b.scale ≤ s) :
    (a.coefficientAt s - b.coefficientAt s < 0 ↔ a.value < b.value) ∧
      (a.coefficientAt s - b.coefficientAt s = 0 ↔ a.value = b.value) := by
  have hpos := tenPow_cast_pos s
  rw [sub_neg, sub_eq_zero, ← Int.cast_lt (R := ℚ), ← Int.cast_inj (α := ℚ),
    coefficientAt_cast a ha, coefficientAt_cast b hb, mul_lt_mul_iff_left₀ hpos,
    mul_left_inj' hpos.ne']
  exact ⟨Iff.rfl, Iff.rfl⟩

/-- **A difference is negative, or zero, just if the exact one is**, whatever digits it had no
room for. -/
theorem sign_sub {a b r : Decimal} (h : a.sub b = some r) :
    (r.value < 0 ↔ a.value < b.value) ∧ (r.value = 0 ↔ a.value = b.value) := by
  unfold sub at h
  split_ifs at h with ha hb
  · cases h
    rw [value_neg, (isZero_iff a).1 ha]
    exact ⟨neg_lt_zero, neg_eq_zero.trans eq_comm⟩
  · cases h
    rw [(isZero_iff b).1 hb]
    exact ⟨Iff.rfl, Iff.rfl⟩
  · have hsign := sign_fit (max_le a.scale_le b.scale_le) h
    obtain ⟨hneg, hzero⟩ :=
      sign_coefficientAt_sub (le_max_left a.scale b.scale) (le_max_right a.scale b.scale)
    rw [value_neg_iff, value_eq_zero_iff, ← hneg, ← hzero]
    exact ⟨lt_zero_iff_of_sign_eq hsign, eq_zero_iff_of_sign_eq hsign⟩

end BookFeed.Decimal
