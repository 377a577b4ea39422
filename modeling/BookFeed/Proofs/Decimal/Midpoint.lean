import Mathlib.Tactic.Linarith
import BookFeed.Proofs.Decimal.Halving

set_option autoImplicit false

/-!
# The middle of two numbers

The middle of two numbers is found by halving their sum, and both steps may round. What halving
rounds never matters: a sum without room for the digit that its half needs is one of two numbers
that are farther apart than what both steps lose. What the sum rounds matters only where it is
one digit. A sum gives up more digits than that only if one of the two numbers is far larger
than the other one, and then their middle is far from both. So the middle does not lie between
the two just if they are closer to each other than rounding the last digit moves their sum.

All of this is about whole numbers: the exact sum and the gap, counted in units of the last
digit of the finer one of the two numbers.

## Main definitions

* `BookFeed.Decimal.exactSum`, `BookFeed.Decimal.gap` — the sum and the gap in units of the
  last digit.
* `BookFeed.Decimal.tensDistance` — how far a whole number is from tens.
* `BookFeed.Decimal.Added` — how a sum comes about.

## Main results

* `BookFeed.Decimal.added_of_add` — a sum is trivial, exact or rounded.
* `BookFeed.Decimal.rounding_le_gap_iff` — when the sum loses no more than the gap.
* `BookFeed.Decimal.le_gap_of_cramped` — where halving rounds, the gap is large.
* `BookFeed.Decimal.half_between_iff` — the middle of two numbers lies between them just if
  the sum loses no more than the gap.
-/

namespace BookFeed.Decimal

open Rounding

/-! ### Units of the last digit -/

/-- The scale of the finer one of two numbers. -/
def commonScale (a b : Decimal) : ℕ := max a.scale b.scale

theorem scale_le_commonScale_left (a b : Decimal) : a.scale ≤ commonScale a b := le_max_left _ _

theorem scale_le_commonScale_right (a b : Decimal) : b.scale ≤ commonScale a b := le_max_right _ _

/-- The exact sum, in units of the last digit of the finer number. -/
def exactSum (a b : Decimal) : ℤ :=
  a.coefficientAt (commonScale a b) + b.coefficientAt (commonScale a b)

/-- How far the second number is above the first one, in units of the last digit of the finer
number. -/
def gap (a b : Decimal) : ℤ :=
  b.coefficientAt (commonScale a b) - a.coefficientAt (commonScale a b)

/-- How far a whole number is from the nearest multiple of ten. -/
def tensDistance (c : ℤ) : ℤ := min (c % 10) (10 - c % 10)

theorem coefficientAt_self (d : Decimal) : d.coefficientAt d.scale = d.coefficient := by
  rw [coefficientAt, Nat.sub_self, tenPow_zero, Nat.cast_one, Int.mul_one]

/-- The exact sum is not far beyond the gap, since the finer number itself is in range. -/
theorem natAbs_exactSum_le (a b : Decimal) :
    (exactSum a b).natAbs ≤ (gap a b).natAbs + 2 * 79228162514264337593543950335 := by
  have ha := a.natAbs_lt
  have hb := b.natAbs_lt
  unfold exactSum gap commonScale
  rcases max_choice a.scale b.scale with h | h
  · rw [h, coefficientAt_self]
    omega
  · rw [h, coefficientAt_self]
    omega

/-! ### How a sum comes about -/

/-- How the sum of two numbers comes about. -/
inductive Added (a b r : Decimal) : Prop where
  /-- One of the two is zero, and the sum is the other one. -/
  | trivial (hscale : r.scale ≤ commonScale a b)
      (hsum : r.coefficientAt (commonScale a b) = exactSum a b)
      (hgap : (gap a b).natAbs = (exactSum a b).natAbs)
  /-- There is room for all digits. -/
  | exact (hscale : r.scale = commonScale a b) (hsum : r.coefficient = exactSum a b)
  /-- There is no room for the last digits, and with one digit more there would be none. -/
  | rounded (k : ℕ) (hscale : r.scale + (k + 1) = commonScale a b)
      (hsum : r.coefficient = intToEven (exactSum a b) (tenPow (k + 1)))
      (hroom : 79228162514264337593543950336 ≤ toEven (exactSum a b).natAbs (tenPow k))

theorem added_of_add {a b r : Decimal} (h : a.add b = some r) : Added a b r := by
  unfold add at h
  split_ifs at h with ha hb
  · cases h
    have hzero : a.coefficient = 0 := by simpa [isZero] using ha
    apply Added.trivial
    · exact scale_le_commonScale_right a b
    · simp [exactSum, coefficientAt, hzero]
    · simp [gap, exactSum, coefficientAt, hzero]
  · cases h
    have hzero : b.coefficient = 0 := by simpa [isZero] using hb
    apply Added.trivial
    · exact scale_le_commonScale_left a b
    · simp [exactSum, coefficientAt, hzero]
    · simp [gap, exactSum, coefficientAt, hzero]
  · have hle : max a.scale b.scale ≤ 28 := max_le a.scale_le b.scale_le
    obtain ⟨k, hk, hcoefficient, hscale, hroom⟩ := exists_of_fit hle h
    cases k with
    | zero =>
      rw [tenPow_zero, intToEven_one] at hcoefficient
      exact Added.exact hscale hcoefficient
    | succ k =>
      have hsum : r.scale + (k + 1) = max a.scale b.scale := by omega
      exact Added.rounded k hsum hcoefficient (hroom k (Nat.lt_succ_self k))

theorem Added.scale_le {a b r : Decimal} (h : Added a b r) : r.scale ≤ commonScale a b := by
  cases h with
  | trivial hscale => exact hscale
  | exact hscale => exact hscale.le
  | rounded k hscale => omega

/-! ### What a sum loses -/

/-- A sum that has no room is large. -/
theorem le_two_mul_of_le_toEven {n p : ℕ} (hp : 0 < p)
    (h : 79228162514264337593543950336 ≤ toEven n p) :
    158456325028528675187087900671 * p ≤ 2 * n := by
  have hbound := (two_mul_toEven_bounds n hp).1
  have hlarge : p * 79228162514264337593543950336 ≤ p * toEven n p := Nat.mul_le_mul_left p h
  omega

/-- A rounded sum is off by at most one half of its last digit. -/
theorem two_mul_natAbs_rounded_sub_le (c : ℤ) (k : ℕ) :
    2 * (intToEven c (tenPow k) * tenPow k - c).natAbs ≤ tenPow k := by
  have hbounds := two_mul_intToEven_bounds c (tenPow_pos k)
  rw [Int.mul_comm (tenPow k : ℤ)] at hbounds
  omega

/-- Rounding to tens changes a whole number by its distance from them. -/
theorem natAbs_rounded_tens_sub (c : ℤ) :
    ((intToEven c (tenPow 1) * tenPow 1 - c).natAbs : ℤ) = tensDistance c := by
  have hnear := two_mul_natAbs_rounded_sub_le c 1
  have hten : tenPow 1 = 10 := rfl
  rw [hten] at hnear ⊢
  unfold tensDistance
  omega

theorem tensDistance_le (c : ℤ) : tensDistance c ≤ 5 := by
  unfold tensDistance
  omega

theorem tensDistance_mul_tenPow_succ (c : ℤ) (k : ℕ) :
    tensDistance (c * tenPow (k + 1)) = 0 := by
  have htens : c * (tenPow (k + 1) : ℕ) = 10 * (c * (tenPow k : ℕ)) := by
    rw [tenPow_succ]
    push_cast
    ring
  rw [htens]
  unfold tensDistance
  omega

/-- A sum that is in range as it is fits, or it ends in a zero. -/
theorem fits_or_tensDistance_eq_zero {r : Decimal} {s : ℕ} (hs : r.scale ≤ s) :
    (r.coefficientAt s).natAbs < 79228162514264337593543950336 ∨
      tensDistance (r.coefficientAt s) = 0 := by
  obtain ⟨k, rfl⟩ := Nat.exists_eq_add_of_le hs
  cases k with
  | zero =>
    left
    rw [Nat.add_zero, coefficientAt_self]
    exact r.natAbs_lt
  | succ k =>
    right
    rw [coefficientAt, Nat.add_sub_cancel_left]
    exact tensDistance_mul_tenPow_succ r.coefficient k

/-- Where the last two digits of a sum have no room, the gap is large. -/
theorem le_gap_of_le_toEven {a b : Decimal} {k : ℕ}
    (h : 79228162514264337593543950336 ≤ toEven (exactSum a b).natAbs (tenPow (k + 1))) :
    tenPow (k + 1 + 1) ≤ (gap a b).natAbs := by
  have hpos := tenPow_pos k
  have hlarge := le_two_mul_of_le_toEven (tenPow_pos (k + 1)) h
  have hsum := natAbs_exactSum_le a b
  rw [tenPow_succ (k + 1), tenPow_succ k] at *
  omega

/-- **The sum loses no more than the gap** just if there is room for the exact sum, or its
distance from tens is no more than the gap.

**Proof sketch.** A sum without a last digit is off by the distance of the exact sum from tens.
If it gives up more digits than that, one of the two numbers is far larger than the other
one. -/
theorem rounding_le_gap_iff {a b r : Decimal} (h : Added a b r) (hgap : 0 ≤ gap a b) :
    |r.coefficientAt (commonScale a b) - exactSum a b| ≤ gap a b ↔
      (exactSum a b).natAbs < 79228162514264337593543950336 ∨
        tensDistance (exactSum a b) ≤ gap a b := by
  cases h with
  | trivial hscale hsum =>
    have hfits := fits_or_tensDistance_eq_zero hscale
    rw [hsum] at hfits ⊢
    rw [sub_self, abs_zero]
    exact iff_of_true hgap (hfits.imp_right fun hrest => by omega)
  | exact hscale hsum =>
    have hlt := r.natAbs_lt
    rw [hsum] at hlt
    rw [← hscale, coefficientAt_self, hsum, sub_self, abs_zero]
    exact iff_of_true hgap (Or.inl hlt)
  | rounded k hscale hsum hroom =>
    have hdropped : commonScale a b - r.scale = k + 1 := by omega
    rw [coefficientAt, hdropped, hsum, Int.abs_eq_natAbs]
    cases k with
    | zero =>
      have hlarge := le_two_mul_of_le_toEven (tenPow_pos 0) hroom
      rw [tenPow_zero] at hlarge
      rw [natAbs_rounded_tens_sub, or_iff_right (by omega)]
    | succ k =>
      have hoff := two_mul_natAbs_rounded_sub_le (exactSum a b) (k + 1 + 1)
      have hlarge := le_gap_of_le_toEven hroom
      have hten : 10 ≤ tenPow (k + 1 + 1) := Nat.le_self_pow (by omega) 10
      have hrest := tensDistance_le (exactSum a b)
      exact iff_of_true (by omega) (Or.inr (by omega))

/-! ### Where halving rounds -/

/-- A sum that is odd and has no room for the digit of its half is larger than twice any number
in range. -/
theorem le_two_mul_of_cramped {r : Decimal} {c : ℤ} {k : ℕ} (hodd : r.coefficient % 2 = 1)
    (hlarge : 79228162514264337593543950336 ≤ 5 * r.coefficient.natAbs)
    (hnear : 2 * (r.coefficient * tenPow (k + 1) - c).natAbs ≤ tenPow (k + 1)) :
    158456325028528675187087900670 + 15 * tenPow k ≤ c.natAbs := by
  have hpos := tenPow_pos k
  have hodd' : 15845632502852867518708790069 ≤ r.coefficient.natAbs := by omega
  have hproduct := Nat.mul_le_mul_right (tenPow k) hodd'
  have habs : (r.coefficient * (tenPow (k + 1) : ℕ)).natAbs =
      r.coefficient.natAbs * tenPow k * 10 := by
    rw [Int.natAbs_mul, Int.natAbs_natCast, tenPow_succ, Nat.mul_assoc]
  rw [tenPow_succ] at hnear habs
  omega

/-- **Where halving rounds, the gap is large**: it is at least one last digit of the sum and
what the sum has lost.

**Proof sketch.** An exact sum that is odd has a gap that is odd. A rounded one is larger than
twice the finer of the two numbers. -/
theorem le_gap_of_cramped {a b r : Decimal} (h : Added a b r) (hcramped : r.Cramped) :
    (tenPow (commonScale a b - r.scale) : ℤ) +
      |r.coefficientAt (commonScale a b) - exactSum a b| ≤ |gap a b| := by
  obtain ⟨hodd, hroom⟩ := hcramped
  rw [Int.abs_eq_natAbs, Int.abs_eq_natAbs]
  cases h with
  | trivial hscale hsum hgap =>
    -- the gap is the sum itself, and its last digit is not zero
    have hne : 0 < r.coefficient.natAbs := by omega
    have hle := Nat.le_mul_of_pos_left (tenPow (commonScale a b - r.scale)) hne
    have habs : (exactSum a b).natAbs =
        r.coefficient.natAbs * tenPow (commonScale a b - r.scale) := by
      rw [← hsum, coefficientAt, Int.natAbs_mul, Int.natAbs_natCast]
    rw [hsum, hgap, habs, sub_self, Int.natAbs_zero]
    omega
  | exact hscale hsum =>
    have hne : (gap a b).natAbs ≠ 0 := by
      unfold gap
      unfold exactSum at hsum
      omega
    rw [← hscale, coefficientAt_self, hsum, Nat.sub_self, tenPow_zero, sub_self, Int.natAbs_zero]
    omega
  | rounded k hscale hsum _ =>
    have hdropped : commonScale a b - r.scale = k + 1 := by omega
    have hnear := two_mul_natAbs_rounded_sub_le (exactSum a b) (k + 1)
    rw [← hsum] at hnear
    have hle := max_le a.scale_le b.scale_le
    have hlarge := le_two_mul_of_cramped hodd (hroom (by unfold commonScale at hscale; omega)) hnear
    have hsum' := natAbs_exactSum_le a b
    rw [coefficientAt, hdropped]
    rw [tenPow_succ] at hnear ⊢
    omega

/-! ### Between the two numbers -/

theorem exactSum_cast (a b : Decimal) :
    (exactSum a b : ℚ) = (a.value + b.value) * (tenPow (commonScale a b) : ℕ) := by
  rw [exactSum, Int.cast_add, coefficientAt_cast a (scale_le_commonScale_left a b),
    coefficientAt_cast b (scale_le_commonScale_right a b), add_mul]

theorem gap_cast (a b : Decimal) :
    (gap a b : ℚ) = (b.value - a.value) * (tenPow (commonScale a b) : ℕ) := by
  rw [gap, Int.cast_sub, coefficientAt_cast a (scale_le_commonScale_left a b),
    coefficientAt_cast b (scale_le_commonScale_right a b), sub_mul]

theorem gap_nonneg {a b : Decimal} (h : a.value ≤ b.value) : 0 ≤ gap a b := by
  have hpos := tenPow_cast_pos (commonScale a b)
  rw [← Int.cast_nonneg_iff (R := ℚ), gap_cast]
  exact mul_nonneg (sub_nonneg.2 h) hpos.le

/-- A number lies between two others just if twice the number is no farther from their sum than
they are from each other. -/
theorem between_iff (a b : Decimal) (x : ℚ) :
    a.value ≤ x ∧ x ≤ b.value ↔
      |2 * x * (tenPow (commonScale a b) : ℕ) - exactSum a b| ≤ gap a b := by
  have hpos := tenPow_cast_pos (commonScale a b)
  rw [exactSum_cast, gap_cast, ← sub_mul, abs_mul, abs_of_pos hpos, mul_le_mul_iff_left₀ hpos,
    abs_le]
  constructor
  · rintro ⟨ha, hb⟩
    constructor <;> linarith
  · rintro ⟨ha, hb⟩
    constructor <;> linarith

/-- One unit of the last digit, in units of a finer one. -/
theorem one_div_mul_tenPow {r s : ℕ} (h : r ≤ s) :
    1 / ((tenPow r : ℕ) : ℚ) * (tenPow s : ℕ) = (tenPow (s - r) : ℕ) := by
  obtain ⟨k, rfl⟩ := Nat.exists_eq_add_of_le h
  have hne := tenPow_cast_ne_zero r
  rw [Nat.add_sub_cancel_left, tenPow_add, Nat.cast_mul]
  field_simp

/-- **The middle lies between the two numbers** just if there is room for their exact sum, or
the distance of that sum from tens is no more than the gap between them.

**Proof sketch.** If twice the middle is the sum as it was rounded, what the sum has lost
decides. Otherwise the gap is large enough for what both steps have lost. -/
theorem half_between_iff {a b r m : Decimal} (hle : a.value ≤ b.value) (hadd : a.add b = some r)
    (hhalf : r.half = some m) :
    a.value ≤ m.value ∧ m.value ≤ b.value ↔
      (exactSum a b).natAbs < 79228162514264337593543950336 ∨
        tensDistance (exactSum a b) ≤ gap a b := by
  have hadded := added_of_add hadd
  have hgap := gap_nonneg hle
  have hsum := coefficientAt_cast r hadded.scale_le
  rw [between_iff, ← rounding_le_gap_iff hadded hgap]
  obtain ⟨m', hm', hvalue⟩ := exists_half r
  obtain rfl : m = m' := Option.some.inj (hhalf.symm.trans hm')
  rcases hvalue with hexact | ⟨hcramped, hoff⟩
  · rw [hexact, ← hsum]
    exact_mod_cast Iff.rfl
  · have hlarge := le_gap_of_cramped hadded hcramped
    rw [abs_of_nonneg hgap] at hlarge
    have hunit : |2 * m.value * (tenPow (commonScale a b) : ℕ) -
        r.coefficientAt (commonScale a b)| =
        (tenPow (commonScale a b - r.scale) : ℕ) := by
      rw [hsum, ← sub_mul, abs_mul, hoff, Nat.abs_cast, one_div_mul_tenPow hadded.scale_le]
    have htriangle := abs_sub_le (2 * m.value * (tenPow (commonScale a b) : ℕ))
      (r.coefficientAt (commonScale a b) : ℚ) (exactSum a b)
    refine iff_of_true ?_ ?_
    · rw [hunit] at htriangle
      refine htriangle.trans ?_
      exact_mod_cast hlarge
    · have hnonneg : (0 : ℤ) ≤ (tenPow (commonScale a b - r.scale) : ℕ) :=
        Int.natCast_nonneg _
      linarith

end BookFeed.Decimal
