import Mathlib.Algebra.Group.Nat.Defs
import Mathlib.Data.List.Induction

set_option autoImplicit false

/-!
# Digits and numbers

The digits of a number read as that number. The other way round, digits that read as a number
are its digits up to zeros at the front: two texts of one length that read alike are the same
text.

## Main results

* `BookFeed.Decimal.toDigits_ofDigitChars` — digits without a zero at the front are those of
  their number.
* `BookFeed.Decimal.eq_of_ofDigitChars_eq` — digits of one length with one value are the same.
-/

namespace BookFeed.Decimal

/-! ### Single digits -/

theorem isDigit_iff {c : Char} : c.isDigit = true ↔ 48 ≤ c.toNat ∧ c.toNat ≤ 57 := by
  rw [Char.isDigit, Bool.and_eq_true, decide_eq_true_eq, decide_eq_true_eq]
  exact Iff.rfl

theorem digitChar_toNat_sub {c : Char} (h : c.isDigit = true) :
    Nat.digitChar (c.toNat - 48) = c := by
  obtain ⟨h₁, h₂⟩ := isDigit_iff.1 h
  refine Char.toNat_inj.1 ?_
  rw [Nat.toNat_digitChar_of_lt_ten (by omega)]
  omega

theorem toNat_sub_lt {c : Char} (h : c.isDigit = true) : c.toNat - 48 < 10 := by
  have := isDigit_iff.1 h
  omega

/-! ### Values of digits -/

theorem ofDigitChars_concat (cs : List Char) (c : Char) :
    Nat.ofDigitChars 10 (cs ++ [c]) 0 = 10 * Nat.ofDigitChars 10 cs 0 + (c.toNat - 48) := by
  rw [Nat.ofDigitChars_append, Nat.ofDigitChars_cons, Nat.ofDigitChars_nil]
  rfl

theorem ofDigitChars_lt {cs : List Char} (h : ∀ c ∈ cs, c.isDigit = true) :
    Nat.ofDigitChars 10 cs 0 < 10 ^ cs.length := by
  induction cs using List.reverseRecOn with
  | nil => decide
  | append_singleton cs c ih =>
    rw [List.forall_mem_append, List.forall_mem_singleton] at h
    have hcs := ih h.1
    have hc := toNat_sub_lt h.2
    rw [ofDigitChars_concat, List.length_append, List.length_singleton, Nat.pow_succ]
    omega

/-- What is read never becomes less by a further digit. -/
theorem le_ofDigitChars (cs : List Char) (start : Nat) :
    start ≤ Nat.ofDigitChars 10 cs start := by
  calc
    start ≤ 10 ^ cs.length * start := Nat.le_mul_of_pos_left start (Nat.pow_pos (by decide))
    _ ≤ 10 ^ cs.length * start + Nat.ofDigitChars 10 cs 0 := Nat.le_add_right _ _
    _ = Nat.ofDigitChars 10 cs start := Nat.ofDigitChars_eq_ofDigitChars_zero.symm

/-- Digits of one length that read as one number are the same. -/
theorem eq_of_ofDigitChars_eq {cs ds : List Char} (hcs : ∀ c ∈ cs, c.isDigit = true)
    (hds : ∀ c ∈ ds, c.isDigit = true) (hlength : cs.length = ds.length)
    (h : Nat.ofDigitChars 10 cs 0 = Nat.ofDigitChars 10 ds 0) : cs = ds := by
  induction cs using List.reverseRecOn generalizing ds with
  | nil => exact (List.length_eq_zero_iff.1 hlength.symm).symm
  | append_singleton cs c ih =>
    obtain rfl | ⟨ds, d, rfl⟩ := List.eq_nil_or_concat ds
    · simp at hlength
    rw [List.concat_eq_append] at *
    rw [List.forall_mem_append, List.forall_mem_singleton] at hcs hds
    rw [ofDigitChars_concat, ofDigitChars_concat] at h
    have hc := toNat_sub_lt hcs.2
    have hd := toNat_sub_lt hds.2
    have hlast : c = d := by
      rw [← digitChar_toNat_sub hcs.2, ← digitChar_toNat_sub hds.2]
      congr 1
      omega
    rw [ih hcs.1 hds.1 (by simpa using hlength) (by omega), hlast]

/-! ### Digits of numbers -/

theorem isDigit_toDigits {n : Nat} {c : Char} (h : c ∈ Nat.toDigits 10 n) : c.isDigit = true :=
  Nat.isDigit_of_mem_toDigits (by decide) (by decide) h

/-- No zero stands before another digit. -/
theorem toDigits_of_head? {n : Nat} (h : (Nat.toDigits 10 n).head? = some '0') :
    Nat.toDigits 10 n = ['0'] := by
  induction n using Nat.strongRecOn with
  | ind n ih =>
    by_cases hn : n < 10
    · rw [Nat.toDigits_of_lt_base hn] at h ⊢
      simpa using h
    · have hhead := h
      rw [Nat.toDigits_of_base_le (by decide) (by omega), List.head?_append,
        List.head?_eq_some_head Nat.toDigits_ne_nil, Option.some_or,
        ← List.head?_eq_some_head Nat.toDigits_ne_nil] at hhead
      -- the digits before the last one are those of a number that is not zero
      have hfront := ih (n / 10) (by omega) hhead
      have hzero : n / 10 = 0 := by
        rw [← Nat.ofDigitChars_ten_toDigits (n := n / 10), hfront]
        rfl
      omega

/-- Further digits behind those of a number that is not zero. -/
theorem toDigits_append {n : Nat} (hn : 0 < n) {cs : List Char}
    (h : ∀ c ∈ cs, c.isDigit = true) :
    Nat.toDigits 10 n ++ cs = Nat.toDigits 10 (Nat.ofDigitChars 10 cs n) := by
  induction cs generalizing n with
  | nil => rw [List.append_nil, Nat.ofDigitChars_nil]
  | cons c cs ih =>
    rw [List.forall_mem_cons] at h
    have hc := toNat_sub_lt h.1
    calc
      Nat.toDigits 10 n ++ c :: cs
        = Nat.toDigits 10 n ++ Nat.toDigits 10 (c.toNat - 48) ++ cs := by
          rw [Nat.toDigits_of_lt_base hc, digitChar_toNat_sub h.1]
          simp
      _ = Nat.toDigits 10 (10 * n + (c.toNat - 48)) ++ cs := by
          rw [Nat.toDigits_append_toDigits (by decide) hn hc]
      _ = Nat.toDigits 10 (Nat.ofDigitChars 10 (c :: cs) n) := by
          rw [ih (by omega) h.2, Nat.ofDigitChars_cons]
          rfl

/-- Digits without a zero at the front are the digits of the number that they read as. -/
theorem toDigits_ofDigitChars {c : Char} {cs : List Char} (h : ∀ d ∈ c :: cs, d.isDigit = true)
    (hzero : c ≠ '0') : Nat.toDigits 10 (Nat.ofDigitChars 10 (c :: cs) 0) = c :: cs := by
  rw [List.forall_mem_cons] at h
  have hc := toNat_sub_lt h.1
  have hpos : 0 < c.toNat - 48 := by
    have hdigit := isDigit_iff.1 h.1
    have hne : c.toNat ≠ 48 := fun h => hzero (Char.toNat_inj.1 h)
    omega
  rw [Nat.ofDigitChars_cons, Nat.mul_zero, Nat.zero_add]
  change Nat.toDigits 10 (Nat.ofDigitChars 10 cs (c.toNat - 48)) = c :: cs
  rw [← toDigits_append hpos h.2, Nat.toDigits_of_lt_base hc, digitChar_toNat_sub h.1]
  rfl

end BookFeed.Decimal
