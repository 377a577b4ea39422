import Mathlib.Algebra.Order.Field.Basic
import Mathlib.Tactic.Ring
import BookFeed.Proofs.Decimal.Rounding

set_option autoImplicit false

/-!
# Halves

One half of an even coefficient has the same scale. One half of an odd one needs a fraction
digit more, and gets up to nine of them, most of which are zeros and are removed again. Only
where neither the scale nor the 96 bits leave room for that digit is a half rounded, and then it
is off by one half of the last digit.

## Main definitions

* `BookFeed.Decimal.Stripped` — a coefficient and scale without some of their fraction zeros.
* `BookFeed.Decimal.Cramped` — the numbers without room for the digit that their half needs.

## Main results

* `BookFeed.Decimal.stripped_stripZeros` — only zeros are removed.
* `BookFeed.Decimal.exists_half` — every number has a half, which is exact unless the number
  is cramped.
-/

namespace BookFeed.Rounding

/-- A rounded quotient is off by at most one half, whatever the sign is. -/
theorem two_mul_intToEven_bounds (c : ℤ) {d : ℕ} (hd : 0 < d) :
    2 * (d * intToEven c d) ≤ 2 * c + d ∧ 2 * c ≤ 2 * (d * intToEven c d) + d := by
  obtain ⟨hupper, hlower⟩ := two_mul_toEven_bounds c.natAbs hd
  have hcast : ((d * toEven c.natAbs d : ℕ) : ℤ) = d * (toEven c.natAbs d : ℤ) :=
    Nat.cast_mul _ _
  unfold intToEven
  split
  · rw [Int.mul_neg, ← hcast]
    omega
  · rw [← hcast]
    omega

end BookFeed.Rounding

namespace BookFeed.Decimal

open Rounding

/-! ### Fraction zeros -/

/-- The second coefficient and scale are the first ones without some fraction zeros. -/
def Stripped (x y : ℤ × ℕ) : Prop := ∃ k, x.2 = y.2 + k ∧ x.1 = y.1 * tenPow k

theorem Stripped.refl (x : ℤ × ℕ) : Stripped x x :=
  ⟨0, rfl, by rw [tenPow_zero, Nat.cast_one, Int.mul_one]⟩

theorem Stripped.trans {x y z : ℤ × ℕ} (hxy : Stripped x y) (hyz : Stripped y z) :
    Stripped x z := by
  obtain ⟨j, hscale, hcoefficient⟩ := hxy
  obtain ⟨k, hscale', hcoefficient'⟩ := hyz
  refine ⟨k + j, by omega, ?_⟩
  rw [hcoefficient, hcoefficient', tenPow_add, Nat.cast_mul, Int.mul_assoc]

theorem stripped_stripDigits (d k : ℕ) (x : ℤ × ℕ) : Stripped x (stripDigits d k x) := by
  unfold stripDigits
  split
  · next h =>
    obtain ⟨-, hscale, hzeros⟩ := h
    refine ⟨k, by dsimp only; omega, ?_⟩
    dsimp only
    rw [Int.ediv_mul_cancel (Int.dvd_of_emod_eq_zero hzeros)]
  · exact Stripped.refl x

/-- Only fraction zeros are removed. -/
theorem stripped_stripZeros (x : ℤ × ℕ) : Stripped x (stripZeros x) := by
  have heights : Stripped x ((List.range 3).foldl (fun y _ => stripDigits (twoPow 32) 8 y) x) := by
    apply List.foldlRecOn (motive := Stripped x)
    · exact Stripped.refl x
    · intro y hy _ _
      exact hy.trans (stripped_stripDigits _ _ _)
  exact heights.trans ((stripped_stripDigits _ _ _).trans
    ((stripped_stripDigits _ _ _).trans (stripped_stripDigits _ _ _)))

/-- What is left without some fraction zeros is in range, and it is the same number. -/
theorem exists_of_stripped {c : ℤ} {s : ℕ} {y : ℤ × ℕ} (h : Stripped (c, s) y)
    (hc : c.natAbs < 79228162514264337593543950336) (hs : s ≤ 28) :
    ∃ m, ofCoefficient? y.1 y.2 = some m ∧ m.value = (c : ℚ) / (tenPow s : ℕ) := by
  obtain ⟨k, hscale, hcoefficient⟩ := h
  dsimp only at hscale hcoefficient
  have hle : y.1.natAbs ≤ c.natAbs := by
    rw [hcoefficient, Int.natAbs_mul, Int.natAbs_natCast]
    exact Nat.le_mul_of_pos_right _ (tenPow_pos k)
  refine ⟨⟨y.1, y.2, by omega, by omega⟩, ofCoefficient?_eq_some_iff.2 ⟨rfl, rfl⟩, ?_⟩
  rw [value_eq_div]
  calc
    (y.1 : ℚ) / (tenPow y.2 : ℕ)
      = (y.1 * (tenPow k : ℕ)) / ((tenPow y.2 : ℕ) * (tenPow k : ℕ)) :=
        (mul_div_mul_right _ _ (tenPow_cast_ne_zero k)).symm
    _ = (c : ℚ) / (tenPow s : ℕ) := by
        rw [hcoefficient, hscale, tenPow_add]
        push_cast
        rfl

/-! ### Room for the digit of a half -/

/-- The coefficient is odd, and there is no room for one fraction digit more in its half. -/
def Cramped (d : Decimal) : Prop :=
  d.coefficient % 2 = 1 ∧
    (d.scale < 28 → 79228162514264337593543950336 ≤ 5 * d.coefficient.natAbs)

theorem le_foldl_max {ns : List ℕ} {k : ℕ} (h : k ∈ ns) (n : ℕ) : k ≤ ns.foldl max n := by
  induction ns generalizing n with
  | nil => cases h
  | cons m ns ih =>
    rcases List.mem_cons.1 h with rfl | h
    · rw [List.foldl_cons, List.foldl_max]
      omega
    · exact ih h (max n m)

theorem foldl_max_mem (ns : List ℕ) (n : ℕ) : ns.foldl max n = n ∨ ns.foldl max n ∈ ns := by
  apply List.foldlRecOn (motive := fun k => k = n ∨ k ∈ ns)
  · exact Or.inl rfl
  · intro k hk m hm
    rcases max_choice k m with h | h
    · rwa [h]
    · rw [h]
      exact Or.inr hm

/-- The digits that an odd coefficient gains are digits for which there is room. -/
theorem halvingDigits_fits (c : ℤ) (s : ℕ) :
    halvingDigits c s = 0 ∨
      halvingDigits c s + s ≤ 28 ∧
        c.natAbs * tenPow (halvingDigits c s) / 2 < 79228162514264337593543950336 := by
  refine (foldl_max_mem _ 0).imp_right fun h => ?_
  obtain ⟨-, hroom⟩ := List.mem_filter.1 h
  obtain ⟨hscale, hcoefficient⟩ := of_decide_eq_true hroom
  exact ⟨hscale, Nat.lt_succ_of_le hcoefficient⟩

/-- It gains at least one where there is room for one. -/
theorem halvingDigits_pos {c : ℤ} {s : ℕ} (hs : s < 28)
    (hc : 5 * c.natAbs < 79228162514264337593543950336) : 0 < halvingDigits c s := by
  apply le_foldl_max
  rw [List.mem_filter]
  refine ⟨by decide, decide_eq_true ⟨?_, ?_⟩⟩
  · show 1 + s ≤ 28
    omega
  · show c.natAbs * 10 / 2 ≤ 79228162514264337593543950335
    omega

/-! ### Halves -/

/-- The half of a coefficient with further digits is off by at most one half, and it is exact if
there are any further digits. -/
theorem two_mul_half_bounds (c : ℤ) (k : ℕ) :
    (2 * intToEven (c * tenPow k) 2 - c * tenPow k).natAbs ≤ 1 ∧
      (0 < k → 2 * intToEven (c * tenPow k) 2 = c * tenPow k) := by
  have hbounds := two_mul_intToEven_bounds (c * tenPow k) (by decide : 0 < 2)
  refine ⟨by omega, fun hk => ?_⟩
  obtain ⟨j, rfl⟩ : ∃ j, k = j + 1 := ⟨k - 1, by omega⟩
  have heven : c * (tenPow (j + 1) : ℕ) = 2 * (c * (tenPow j : ℕ) * 5) := by
    rw [tenPow_succ]
    push_cast
    ring
  omega

/-- The half of a coefficient with further digits is in range. -/
theorem natAbs_half_lt (d : Decimal) :
    (intToEven (d.coefficient * tenPow (halvingDigits d.coefficient d.scale)) 2).natAbs <
      79228162514264337593543950336 := by
  have hlt := d.natAbs_lt
  have habs : (d.coefficient * (tenPow (halvingDigits d.coefficient d.scale) : ℕ)).natAbs =
      d.coefficient.natAbs * tenPow (halvingDigits d.coefficient d.scale) := by
    rw [Int.natAbs_mul, Int.natAbs_natCast]
  obtain ⟨hnear, hexact⟩ :=
    two_mul_half_bounds d.coefficient (halvingDigits d.coefficient d.scale)
  rcases Nat.eq_zero_or_pos (halvingDigits d.coefficient d.scale) with hzero | hpos
  · rw [hzero, tenPow_zero] at hnear ⊢
    omega
  · have hfits := ((halvingDigits_fits d.coefficient d.scale).resolve_left hpos.ne').2
    have hdouble := hexact hpos
    omega

theorem cramped_of_halvingDigits_eq_zero {d : Decimal} (hodd : d.coefficient % 2 = 1)
    (h : halvingDigits d.coefficient d.scale = 0) : d.Cramped := by
  refine ⟨hodd, fun hscale => ?_⟩
  by_contra hlt
  have hpos := halvingDigits_pos hscale (Nat.not_le.1 hlt)
  omega

/-- A half is as far from the exact one as twice its coefficient is from the coefficient that
was halved. -/
theorem two_mul_sub_eq_div {d m : Decimal} {n : ℤ} {k : ℕ}
    (hm : m.value = (n : ℚ) / (tenPow (d.scale + k) : ℕ)) :
    2 * m.value - d.value =
      ((2 * n - d.coefficient * tenPow k : ℤ) : ℚ) / (tenPow (d.scale + k) : ℕ) := by
  have hscale := tenPow_cast_ne_zero d.scale
  have hk := tenPow_cast_ne_zero k
  rw [hm, value_eq_div, tenPow_add]
  push_cast
  field_simp

/-- Twice the coefficient of a half is the coefficient that was halved, unless the number is
cramped. -/
theorem exists_half_coefficient (d : Decimal) :
    ∃ (m : Decimal) (n : ℤ) (k : ℕ), d.half = some m ∧
      m.value = (n : ℚ) / (tenPow (d.scale + k) : ℕ) ∧
      (2 * n = d.coefficient * tenPow k ∨
        d.Cramped ∧ k = 0 ∧ (2 * n - d.coefficient).natAbs = 1) := by
  unfold half
  split_ifs with hzero heven
  · have hcoefficient : d.coefficient = 0 := by simpa [isZero] using hzero
    refine ⟨zero, 0, 0, rfl, ?_, Or.inl ?_⟩
    · simp [value_eq_div, zero]
    · simp [hcoefficient]
  · have hlt := d.natAbs_lt
    obtain ⟨m, hm, hvalue⟩ := exists_of_stripped (Stripped.refl (d.coefficient / 2, d.scale))
      (by omega) d.scale_le
    refine ⟨m, d.coefficient / 2, 0, hm, hvalue, Or.inl ?_⟩
    rw [tenPow_zero]
    omega
  · obtain ⟨hnear, hexact⟩ :=
      two_mul_half_bounds d.coefficient (halvingDigits d.coefficient d.scale)
    have hscale : d.scale + halvingDigits d.coefficient d.scale ≤ 28 := by
      have hle := d.scale_le
      have hfits := halvingDigits_fits d.coefficient d.scale
      omega
    obtain ⟨m, hm, hvalue⟩ :=
      exists_of_stripped (stripped_stripZeros _) (natAbs_half_lt d) hscale
    refine ⟨m, _, _, hm, hvalue, ?_⟩
    rcases Nat.eq_zero_or_pos (halvingDigits d.coefficient d.scale) with hnone | hpos
    · have hcramped := cramped_of_halvingDigits_eq_zero (by omega) hnone
      rw [hnone, tenPow_zero] at hnear ⊢
      exact Or.inr ⟨hcramped, rfl, by omega⟩
    · exact Or.inl (hexact hpos)

/-- **Every number has a half.** Twice the half is the number, or the number is cramped and
twice the half is one unit of its last digit away from it. -/
theorem exists_half (d : Decimal) :
    ∃ m, d.half = some m ∧
      (2 * m.value = d.value ∨
        d.Cramped ∧ |2 * m.value - d.value| = 1 / (tenPow d.scale : ℕ)) := by
  obtain ⟨m, n, k, hm, hvalue, hcoefficient⟩ := exists_half_coefficient d
  have hdistance := two_mul_sub_eq_div hvalue
  refine ⟨m, hm, ?_⟩
  rcases hcoefficient with hexact | ⟨hcramped, rfl, hone⟩
  · left
    rwa [hexact, sub_self, Int.cast_zero, zero_div, sub_eq_zero] at hdistance
  · right
    refine ⟨hcramped, ?_⟩
    have habs : |2 * n - d.coefficient| = 1 := by rw [Int.abs_eq_natAbs, hone, Nat.cast_one]
    rw [tenPow_zero, Nat.cast_one, mul_one, Nat.add_zero] at hdistance
    rw [hdistance, abs_div, Nat.abs_cast, ← Int.cast_abs, habs, Int.cast_one]

end BookFeed.Decimal
