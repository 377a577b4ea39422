import Mathlib.Algebra.Order.Field.Basic
import Mathlib.Data.List.TakeWhile
import Mathlib.Tactic.Positivity
import Mathlib.Tactic.Ring
import BookFeed.Proofs.Decimal.Order
import BookFeed.Proofs.Decimal.Written

set_option autoImplicit false

/-!
# Numbers for which there is room are read exactly

One number has many texts: white space and zeros may stand around it, and a sign and a point
where they say nothing. Reading such a text keeps digits as long as there is room for them and
rounds by the first one for which there is none. If the number itself is a decimal, all digits
from there on are zeros: with 28 fraction digits kept, or one more digit that would leave the
range, nothing that is not zero can follow. So nothing is lost, and the decimal that is read is
the number of the text, whatever its scale.

## Main definitions

* `BookFeed.Decimal.numberOf` — the number of a sign and digits.
* `BookFeed.Decimal.Denotes` — the texts of a number.
* `BookFeed.Decimal.Fits` — the numbers that decimals denote.

## Main results

* `BookFeed.Decimal.eq_zero_of_full` — what follows full digits is zero.
* `BookFeed.Decimal.exists_readDigits_fraction` — digits behind the point are read without
  loss.
* `BookFeed.Decimal.exists_read_of_denotes` — a text of a number that fits is read as that
  number.
-/

namespace BookFeed.Decimal

/-! ### Texts of numbers -/

/-- The number of a sign, digits before the point and digits behind it. -/
def numberOf (negative : Bool) (whole fraction : List Char) : ℚ :=
  signed negative (Nat.ofDigitChars 10 (whole ++ fraction) 0) / 10 ^ fraction.length

/-- How a sign is written. -/
inductive SignSpelt : Bool → List Char → Prop where
  /-- There is none. -/
  | absent : SignSpelt false []
  /-- A plus. -/
  | plus : SignSpelt false ['+']
  /-- A minus. -/
  | minus : SignSpelt true ['-']

/-- How the digits behind the point are written. -/
inductive PointSpelt : List Char → List Char → Prop where
  /-- There is no point. -/
  | absent : PointSpelt [] []
  /-- The point and any number of digits. -/
  | present (ds : List Char) : PointSpelt ds ('.' :: ds)

/-- The texts of a number: white space around an optional sign, digits and an optional point. -/
inductive Denotes : List Char → ℚ → Prop where
  /-- There is a digit before the point or behind it. -/
  | mk {negative : Bool} {b sign whole fraction point b' : List Char}
      (hb : ∀ c ∈ b, Text.isBlank c = true) (hsign : SignSpelt negative sign)
      (hwhole : ∀ c ∈ whole, c.isDigit = true)
      (hfraction : ∀ c ∈ fraction, c.isDigit = true)
      (hpoint : PointSpelt fraction point) (hdigit : whole ++ fraction ≠ [])
      (hb' : ∀ c ∈ b', Text.isBlank c = true) :
    Denotes (b ++ (sign ++ whole ++ point) ++ b') (numberOf negative whole fraction)

/-- The numbers that are 96 bits over a power of ten up to the 28th. -/
def Fits (x : ℚ) : Prop :=
  ∃ m k : ℕ, m < 79228162514264337593543950336 ∧ k ≤ 28 ∧ |x| = m / 10 ^ k

/-! ### Room for digits -/

/-- Whether there is room for `n` over the power of ten `e`. -/
def Room (n e : ℕ) : Prop :=
  ∃ m k : ℕ, m < 79228162514264337593543950336 ∧ k ≤ 28 ∧ n * 10 ^ k = m * 10 ^ e

theorem abs_numberOf (negative : Bool) (whole fraction : List Char) :
    |numberOf negative whole fraction| =
      (Nat.ofDigitChars 10 (whole ++ fraction) 0 : ℕ) / 10 ^ fraction.length := by
  rw [numberOf, abs_div, abs_pow, ← Int.cast_abs, Int.abs_eq_natAbs, natAbs_signed]
  simp

theorem fits_numberOf_iff {negative : Bool} {whole fraction : List Char} :
    Fits (numberOf negative whole fraction) ↔
      Room (Nat.ofDigitChars 10 (whole ++ fraction) 0) fraction.length := by
  unfold Fits Room
  refine exists₂_congr fun m k => and_congr_right fun _ => and_congr_right fun _ => ?_
  rw [abs_numberOf, div_eq_div_iff (by positivity) (by positivity)]
  exact_mod_cast Iff.rfl

/-- **What follows full digits is zero.** Let `n` digits follow a number that has `s` digits
behind the point already. If the whole fits and there are 28 of these, or all digits but the
last `n - 1` leave the range, the `n` digits are zeros.

**Proof sketch.** The whole is `m` over a power of ten, and that power is at most `s`: at 28 by
the bound on it, and else since a finer one would make `m` leave the range as well. So the whole
is a multiple of `10 ^ n`. -/
theorem eq_zero_of_full {front back s n : ℕ} (hroom : Room (10 ^ n * front + back) (s + n))
    (hback : back < 10 ^ n)
    (hfull : 28 ≤ s ∨
      79228162514264337593543950336 * 10 ^ n ≤ 10 * (10 ^ n * front + back)) : back = 0 := by
  obtain ⟨m, k, hm, hk, heq⟩ := hroom
  have hks : k ≤ s := by
    by_contra hlt
    obtain ⟨j, rfl⟩ := Nat.exists_eq_add_of_lt (Nat.not_le.1 hlt)
    have hrange := hfull.resolve_left (by omega)
    refine (Nat.mul_lt_mul_of_pos_right hm
      (Nat.pow_pos (n := s + n) (by decide : 0 < 10))).not_ge ?_
    calc
      79228162514264337593543950336 * 10 ^ (s + n)
        ≤ 79228162514264337593543950336 * 10 ^ n * 10 ^ (s + j) := by
          rw [Nat.mul_assoc, ← Nat.pow_add]
          exact Nat.mul_le_mul_left _ (Nat.pow_le_pow_right (by decide) (by omega))
      _ ≤ 10 * (10 ^ n * front + back) * 10 ^ (s + j) := Nat.mul_le_mul_right _ hrange
      _ = (10 ^ n * front + back) * 10 ^ (s + j + 1) := by ring
      _ = m * 10 ^ (s + n) := heq
  obtain ⟨j, rfl⟩ := Nat.exists_eq_add_of_le hks
  have hwhole : 10 ^ n * front + back = 10 ^ n * (m * 10 ^ j) := by
    refine Nat.eq_of_mul_eq_mul_right (Nat.pow_pos (n := k) (by decide : 0 < 10)) ?_
    rw [heq]
    ring
  have hdvd : 10 ^ n ∣ back := (Nat.dvd_add_right ⟨front, rfl⟩).1 ⟨_, hwhole⟩
  exact Nat.eq_zero_of_dvd_of_lt hdvd hback

/-- The digits before the point are in range. -/
theorem lt_of_room {front back n : ℕ} (h : Room (10 ^ n * front + back) n) :
    front < 79228162514264337593543950336 := by
  obtain ⟨m, k, hm, -, heq⟩ := h
  have hle : front * 10 ^ n ≤ m * 10 ^ n := by
    calc
      front * 10 ^ n ≤ (10 ^ n * front + back) * 1 := by rw [Nat.mul_comm]; omega
      _ ≤ (10 ^ n * front + back) * 10 ^ k := Nat.mul_le_mul_left _ (Nat.pow_pos (by decide))
      _ = m * 10 ^ n := heq
  exact Nat.lt_of_le_of_lt (Nat.le_of_mul_le_mul_right hle (Nat.pow_pos (by decide))) hm

theorem ofDigitChars_eq_add (ds : List Char) (front : ℕ) :
    Nat.ofDigitChars 10 ds front = 10 ^ ds.length * front + Nat.ofDigitChars 10 ds 0 :=
  Nat.ofDigitChars_eq_ofDigitChars_zero

/-! ### Reading digits -/

theorem checkTail_digits {cs : List Char} (h : ∀ c ∈ cs, c.isDigit = true) :
    checkTail cs = .ok () := by
  induction cs with
  | nil => rfl
  | cons c cs ih =>
    rw [List.forall_mem_cons] at h
    rw [checkTail, digit?_of_isDigit h.1, if_pos (Or.inl Option.isSome_some), ih h.2]

/-- Digits that are zeros and for which there is no room are left out. -/
theorem readDigits_full (negative : Bool) {c : Char} {cs : List Char} {r : Reading}
    (hpoint : r.point = true) (h : ∀ d ∈ c :: cs, d.isDigit = true)
    (hzero : Nat.ofDigitChars 10 (c :: cs) 0 = 0)
    (hfull : ¬ (10 * r.mantissa + (c.toNat - 48) < 79228162514264337593543950336 ∧
      r.scale + 1 ≤ 28)) :
    readDigits negative (c :: cs) r = .ok (r.toDecimal negative) := by
  rw [List.forall_mem_cons] at h
  have hdigit : c.toNat - 48 = 0 := by
    rw [Nat.ofDigitChars_cons, Nat.mul_zero, Nat.zero_add] at hzero
    exact Nat.le_zero.1 (hzero ▸ le_ofDigitChars cs _)
  have hround : r.round (c.toNat - 48) = .ok r := by rw [Reading.round, if_pos (by omega)]
  rw [readDigits, digit?_of_isDigit h.1]
  simp only [hpoint, if_true]
  split_ifs with hroom hscale
  · exact absurd ⟨hroom, hscale⟩ hfull
  all_goals
    rw [hround, checkTail_digits h.2]
    rfl

/-- **Digits behind the point are read without loss**, if the number has room.

**Proof sketch.** Induction on the digits: each of them is kept until there is no room for one,
and then it and all behind it are zeros (`eq_zero_of_full`). -/
theorem exists_readDigits_fraction (negative : Bool) {ds : List Char}
    (hds : ∀ c ∈ ds, c.isDigit = true) (r : Reading) (hpoint : r.point = true)
    (hstarted : r.started = true ∨ ds ≠ [])
    (hroom : Room (Nat.ofDigitChars 10 ds r.mantissa) (r.scale + ds.length)) :
    ∃ r' : Reading, readDigits negative ds r = .ok (r'.toDecimal negative) ∧
      r'.mantissa * 10 ^ (r.scale + ds.length) =
        Nat.ofDigitChars 10 ds r.mantissa * 10 ^ r'.scale := by
  induction ds generalizing r with
  | nil => exact ⟨r, readDigits_nil (by simpa using hstarted), rfl⟩
  | cons c ds ih =>
    by_cases hkeep : 10 * r.mantissa + (c.toNat - 48) < 79228162514264337593543950336 ∧
        r.scale + 1 ≤ 28
    · rw [List.forall_mem_cons] at hds
      have hlength : r.scale + (c :: ds).length = r.scale + 1 + ds.length := by
        rw [List.length_cons]
        omega
      rw [hlength] at hroom ⊢
      obtain ⟨r', hread, hvalue⟩ := ih hds.2
        ⟨10 * r.mantissa + (c.toNat - 48), r.scale + 1, true, true, hkeep.1, hkeep.2⟩ rfl
        (Or.inl rfl) hroom
      refine ⟨r', ?_, hvalue⟩
      rw [readDigits, digit?_of_isDigit hds.1]
      simpa only [hpoint, if_true, dif_pos hkeep.1, dif_pos hkeep.2] using hread
    · have hfull : 28 ≤ r.scale ∨ 79228162514264337593543950336 * 10 ^ (c :: ds).length ≤
          10 * Nat.ofDigitChars 10 (c :: ds) r.mantissa := by
        by_cases hscale : 28 ≤ r.scale
        · exact Or.inl hscale
        · have hover : 79228162514264337593543950336 ≤ 10 * r.mantissa + (c.toNat - 48) := by
            omega
          refine Or.inr ?_
          calc
            79228162514264337593543950336 * 10 ^ (c :: ds).length
              ≤ (10 * r.mantissa + (c.toNat - 48)) * 10 ^ (c :: ds).length :=
                Nat.mul_le_mul_right _ hover
            _ = 10 * (10 ^ ds.length * (10 * r.mantissa + (c.toNat - 48))) := by
                rw [List.length_cons]
                ring
            _ ≤ 10 * Nat.ofDigitChars 10 (c :: ds) r.mantissa := by
                rw [Nat.ofDigitChars_cons, ofDigitChars_eq_add ds (_ + _)]
                exact Nat.mul_le_mul_left _ (Nat.le_add_right _ _)
      rw [ofDigitChars_eq_add] at hroom hfull
      have hzero := eq_zero_of_full hroom (ofDigitChars_lt hds) hfull
      refine ⟨r, readDigits_full negative hpoint hds hzero hkeep, ?_⟩
      rw [ofDigitChars_eq_add, hzero]
      ring

theorem exists_readDigits (negative : Bool) {whole fraction point : List Char}
    (hwhole : ∀ c ∈ whole, c.isDigit = true) (hfraction : ∀ c ∈ fraction, c.isDigit = true)
    (hpoint : PointSpelt fraction point) (hdigit : whole ++ fraction ≠ [])
    (hroom : Room (Nat.ofDigitChars 10 (whole ++ fraction) 0) fraction.length) :
    ∃ r : Reading, readDigits negative (whole ++ point) .start = .ok (r.toDecimal negative) ∧
      r.mantissa * 10 ^ fraction.length =
        Nat.ofDigitChars 10 (whole ++ fraction) 0 * 10 ^ r.scale := by
  rw [Nat.ofDigitChars_append] at hroom ⊢
  have hlt := lt_of_room (ofDigitChars_eq_add fraction _ ▸ hroom)
  obtain ⟨r, hread, hmantissa, hscale, hopen, hstarted⟩ :=
    readDigits_append negative hwhole point .start hlt (fun h => by cases h)
  have hscale : r.scale = 0 := hscale
  have hopen : r.point = false := hopen
  have hmantissa : r.mantissa = Nat.ofDigitChars 10 whole 0 := hmantissa
  have hstarted : r.started = true ∨ fraction ≠ [] := by
    rw [hstarted]
    by_cases hempty : whole = [] <;> simp_all
  rw [hread, ← hmantissa]
  rw [← hmantissa] at hroom
  cases hpoint with
  | absent =>
    refine ⟨r, readDigits_nil (by simpa using hstarted), ?_⟩
    rw [hscale]
    rfl
  | present =>
    rw [readDigits_point hopen]
    have hlength : r.scale + fraction.length = fraction.length := by rw [hscale, Nat.zero_add]
    rw [← hlength] at hroom
    obtain ⟨r', hread', hvalue⟩ :=
      exists_readDigits_fraction negative hfraction { r with point := true } rfl hstarted hroom
    exact ⟨r', hread', hlength ▸ hvalue⟩

/-! ### Reading texts -/

theorem isBlank_digit {c : Char} (h : c.isDigit = true) : Text.isBlank c = false := by
  obtain ⟨h₁, h₂⟩ := isDigit_iff.1 h
  simp [Text.isBlank]
  omega

/-- Between its sign and its last digit a number has no white space. -/
theorem isBlank_of_mem {negative : Bool} {sign whole fraction point : List Char}
    (hsign : SignSpelt negative sign) (hwhole : ∀ c ∈ whole, c.isDigit = true)
    (hfraction : ∀ c ∈ fraction, c.isDigit = true) (hpoint : PointSpelt fraction point) :
    ∀ c ∈ sign ++ whole ++ point, Text.isBlank c = false := by
  simp only [List.forall_mem_append]
  refine ⟨⟨?_, fun c hc => isBlank_digit (hwhole c hc)⟩, ?_⟩
  · cases hsign <;> simp [Text.isBlank]
  · cases hpoint with
    | absent => simp
    | present =>
      exact List.forall_mem_cons.2 ⟨by decide, fun c hc => isBlank_digit (hfraction c hc)⟩

theorem readPlain_signed {negative : Bool} {sign whole fraction point : List Char}
    (hsign : SignSpelt negative sign) (hwhole : ∀ c ∈ whole, c.isDigit = true)
    (hpoint : PointSpelt fraction point) (hdigit : whole ++ fraction ≠ []) :
    readPlain (sign ++ whole ++ point) = readDigits negative (whole ++ point) .start := by
  cases hsign with
  | plus => rfl
  | minus => rfl
  | absent =>
    obtain ⟨c, cs, hcs, hc⟩ : ∃ c cs, whole ++ point = c :: cs ∧
        (c.isDigit = true ∨ c = '.') := by
      cases whole with
      | cons c cs => exact ⟨c, _, rfl, Or.inl (hwhole c List.mem_cons_self)⟩
      | nil =>
        cases hpoint with
        | absent => exact absurd rfl hdigit
        | present => exact ⟨'.', _, rfl, Or.inr rfl⟩
    have hminus : c ≠ '-' := by rintro rfl; revert hc; decide
    have hplus : c ≠ '+' := by rintro rfl; revert hc; decide
    simp [hcs, readPlain, hminus, hplus]

/-- **A text of a number that fits is read as that number.**

**Proof sketch.** What stands around the number is cut off, its sign is taken, and its digits
are read without loss. -/
theorem exists_read_of_denotes {cs : List Char} {x : ℚ} (h : Denotes cs x) (hx : Fits x) :
    ∃ d, read (Text.trim cs) = .ok d ∧ d.value = x := by
  obtain @⟨negative, b, sign, whole, fraction, point, b', hb, hsign, hwhole, hfraction, hpoint,
    hdigit, hb'⟩ := h
  obtain ⟨r, hread, hvalue⟩ := exists_readDigits negative hwhole hfraction hpoint hdigit
    (fits_numberOf_iff.1 hx)
  refine ⟨r.toDecimal negative, ?_, ?_⟩
  · rw [Text.trim_append hb
      (Text.trimmed_of_forall (isBlank_of_mem hsign hwhole hfraction hpoint)) hb', read,
      readPlain_signed hsign hwhole hpoint hdigit, hread]
  · have hsigned : signed negative r.mantissa * 10 ^ fraction.length =
        signed negative (Nat.ofDigitChars 10 (whole ++ fraction) 0) * 10 ^ r.scale := by
      cases negative <;> simp [signed] <;> exact_mod_cast hvalue
    rw [value_eq_div, numberOf,
      div_eq_div_iff (Nat.cast_ne_zero.2 (tenPow_pos _).ne') (by positivity)]
    have hpow : ((tenPow r.scale : ℕ) : ℚ) = 10 ^ r.scale := Nat.cast_pow 10 r.scale
    change (signed negative r.mantissa : ℚ) * _ = _ * ((tenPow r.scale : ℕ) : ℚ)
    rw [hpow]
    exact_mod_cast hsigned

end BookFeed.Decimal
