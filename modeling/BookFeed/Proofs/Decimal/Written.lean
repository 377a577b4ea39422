import BookFeed.Decimal.Text
import BookFeed.Proofs.Decimal.Digits
import BookFeed.Proofs.Text.Blank

set_option autoImplicit false

/-!
# Decimals are read as they are written

The written form of a decimal has a digit before the point, no superfluous zero at the front and
as many digits behind the point as the scale says. Reading such a text collects its digits one
after the other. Every number on the way is at most the coefficient, so no digit ever lacks
room: nothing is rounded, and the decimal that was written is found again, its scale included.

The other way round, a text of that form is written back as it was.

## Main definitions

* `BookFeed.Decimal.spelling` — a text of a sign, digits and a point.
* `BookFeed.Decimal.Canonical` — the texts that are the written form of a decimal.

## Main results

* `BookFeed.Decimal.read_text` — reading a written decimal.
* `BookFeed.Decimal.exists_read_of_canonical` — writing a decimal that was read.
-/

namespace BookFeed.Decimal

/-- A decimal is its coefficient and its scale. -/
theorem eq_of_coefficient_of_scale {a b : Decimal} (hcoefficient : a.coefficient = b.coefficient)
    (hscale : a.scale = b.scale) : a = b := by
  cases a
  cases b
  cases hcoefficient
  cases hscale
  rfl

/-! ### Collecting digits -/

theorem digit?_of_isDigit {c : Char} (h : c.isDigit = true) : digit? c = some (c.toNat - 48) := by
  obtain ⟨h₁, h₂⟩ := isDigit_iff.1 h
  exact if_pos ⟨h₁, h₂⟩

/-- Digits for which there is room are collected, and more may follow. -/
theorem readDigits_append (negative : Bool) {ds : List Char} (h : ∀ c ∈ ds, c.isDigit = true)
    (rest : List Char) (r : Reading)
    (hlt : Nat.ofDigitChars 10 ds r.mantissa < 79228162514264337593543950336)
    (hscale : r.point = true → r.scale + ds.length ≤ 28) :
    ∃ r' : Reading, readDigits negative (ds ++ rest) r = readDigits negative rest r' ∧
      r'.mantissa = Nat.ofDigitChars 10 ds r.mantissa ∧
      r'.scale = (if r.point then r.scale + ds.length else r.scale) ∧ r'.point = r.point ∧
      r'.started = (r.started || !ds.isEmpty) := by
  induction ds generalizing r with
  | nil => exact ⟨r, rfl, rfl, by simp, rfl, by simp⟩
  | cons c ds ih =>
    rw [List.forall_mem_cons] at h
    rw [Nat.ofDigitChars_cons] at hlt
    have hroom : 10 * r.mantissa + (c.toNat - 48) < 79228162514264337593543950336 :=
      Nat.lt_of_le_of_lt (le_ofDigitChars ds _) hlt
    rw [List.cons_append, readDigits, digit?_of_isDigit h.1]
    cases hpoint : r.point with
    | true =>
      have hlength := hscale hpoint
      rw [List.length_cons] at hlength
      have hone : r.scale + 1 ≤ 28 := by omega
      simp only [hroom, hone, dif_pos, if_true]
      obtain ⟨r', hread, hmantissa, hscale', hpoint', hstarted⟩ := ih h.2
        ⟨10 * r.mantissa + (c.toNat - 48), r.scale + 1, true, true, hroom, hone⟩ hlt
        (fun _ => by dsimp only; omega)
      refine ⟨r', hread, hmantissa, ?_, hpoint', ?_⟩
      · rw [hscale']
        simp only [if_true, List.length_cons]
        omega
      · simpa using hstarted
    | false =>
      simp only [hroom, dif_pos, Bool.false_eq_true, if_false]
      obtain ⟨r', hread, hmantissa, hscale', hpoint', hstarted⟩ := ih h.2
        ⟨10 * r.mantissa + (c.toNat - 48), r.scale, false, true, hroom, r.scale_le⟩ hlt
        (fun h => by cases h)
      exact ⟨r', hread, hmantissa, hscale', hpoint', by simpa using hstarted⟩

/-! ### Texts of a sign, digits and a point -/

/-- A text of an optional minus, digits, and a point before further digits if there are any. -/
def spelling (negative : Bool) (whole fraction : List Char) : List Char :=
  (if negative then ['-'] else []) ++ whole ++ (if fraction = [] then [] else '.' :: fraction)

/-- The number that two rows of digits stand for, with the sign. -/
def signed (negative : Bool) (n : Nat) : Int := if negative then -(n : Int) else n

theorem signed_natAbs (n : Int) : signed (decide (n < 0)) n.natAbs = n := by
  unfold signed
  by_cases h : n < 0
  · rw [if_pos (decide_eq_true h)]
    omega
  · rw [if_neg (by simpa using h)]
    omega

theorem natAbs_signed (negative : Bool) (n : Nat) : (signed negative n).natAbs = n := by
  cases negative <;> simp [signed]

theorem decide_signed {negative : Bool} {n : Nat} (h : negative = true → n ≠ 0) :
    decide (signed negative n < 0) = negative := by
  cases negative with
  | true => simpa [signed] using Nat.pos_of_ne_zero (h rfl)
  | false => simp [signed]

theorem readDigits_nil {negative : Bool} {r : Reading} (h : r.started = true) :
    readDigits negative [] r = .ok (r.toDecimal negative) := by
  rw [readDigits, if_pos h]

theorem readDigits_point {negative : Bool} {r : Reading} (h : r.point = false) (cs : List Char) :
    readDigits negative ('.' :: cs) r = readDigits negative cs { r with point := true } := by
  rw [readDigits, show digit? '.' = none by decide]
  simp only [h, if_true, Bool.false_eq_true, if_false]

theorem readDigits_spelling (negative : Bool) {whole fraction : List Char} (hne : whole ≠ [])
    (hwhole : ∀ c ∈ whole, c.isDigit = true) (hfraction : ∀ c ∈ fraction, c.isDigit = true)
    (hlength : fraction.length ≤ 28)
    (hlt : Nat.ofDigitChars 10 (whole ++ fraction) 0 < 79228162514264337593543950336) :
    ∃ d, readDigits negative (whole ++ (if fraction = [] then [] else '.' :: fraction)) .start =
        .ok d ∧
      d.coefficient = signed negative (Nat.ofDigitChars 10 (whole ++ fraction) 0) ∧
      d.scale = fraction.length := by
  rw [Nat.ofDigitChars_append] at hlt ⊢
  obtain ⟨r, hread, hmantissa, hscale, hpoint, hstarted⟩ :=
    readDigits_append negative hwhole (if fraction = [] then [] else '.' :: fraction) .start
      (Nat.lt_of_le_of_lt (le_ofDigitChars fraction _) hlt) (fun h => by cases h)
  have hstarted : r.started = true := by
    rw [hstarted, Bool.or_eq_true]
    exact Or.inr (by simpa using hne)
  have hscale : r.scale = 0 := hscale
  have hpoint : r.point = false := hpoint
  have hmantissa : r.mantissa = Nat.ofDigitChars 10 whole 0 := hmantissa
  rw [hread]
  by_cases hempty : fraction = []
  · subst hempty
    refine ⟨r.toDecimal negative, readDigits_nil hstarted, ?_, hscale⟩
    rw [Nat.ofDigitChars_nil, ← hmantissa]
    rfl
  · rw [if_neg hempty, readDigits_point hpoint]
    rw [← hmantissa] at hlt
    obtain ⟨r', hread', hmantissa', hscale', hpoint', hstarted'⟩ :=
      readDigits_append negative hfraction [] { r with point := true } hlt
        (fun _ => by dsimp only; omega)
    rw [List.append_nil] at hread'
    refine ⟨r'.toDecimal negative, ?_, ?_, ?_⟩
    · rw [hread', readDigits_nil (by rw [hstarted']; simp [hstarted])]
    · rw [← hmantissa, ← hmantissa']
      rfl
    · exact hscale'.trans (by simp [hscale])

/-- A sign, digits and a point that a decimal has room for are read as that decimal. -/
theorem read_spelling (negative : Bool) {whole fraction : List Char} (hne : whole ≠ [])
    (hwhole : ∀ c ∈ whole, c.isDigit = true) (hfraction : ∀ c ∈ fraction, c.isDigit = true)
    (hlength : fraction.length ≤ 28)
    (hlt : Nat.ofDigitChars 10 (whole ++ fraction) 0 < 79228162514264337593543950336) :
    ∃ d, read (spelling negative whole fraction) = .ok d ∧
      d.coefficient = signed negative (Nat.ofDigitChars 10 (whole ++ fraction) 0) ∧
      d.scale = fraction.length := by
  obtain ⟨d, hread, hcoefficient, hscale⟩ :=
    readDigits_spelling negative hne hwhole hfraction hlength hlt
  refine ⟨d, ?_, hcoefficient, hscale⟩
  have hplain : readPlain (spelling negative whole fraction) = .ok d := by
    cases negative with
    | true => simpa [spelling, readPlain] using hread
    | false =>
      obtain ⟨c, cs, rfl⟩ := List.exists_cons_of_ne_nil hne
      have hc := hwhole c List.mem_cons_self
      have hminus : c ≠ '-' := by rintro rfl; cases hc
      have hplus : c ≠ '+' := by rintro rfl; cases hc
      simpa [spelling, readPlain, hminus, hplus] using hread
  rw [read, hplain]

/-! ### The written form -/

theorem length_paddedDigits {width n : Nat} : width ≤ (paddedDigits width n).length := by
  simp [paddedDigits]
  omega

theorem ofDigitChars_paddedDigits (width n : Nat) :
    Nat.ofDigitChars 10 (paddedDigits width n) 0 = n := by
  rw [paddedDigits, Nat.ofDigitChars_append, Nat.ofDigitChars_replicate_zero, Nat.mul_zero,
    Nat.ofDigitChars_ten_toDigits]

theorem isDigit_paddedDigits {width n : Nat} {c : Char} (h : c ∈ paddedDigits width n) :
    c.isDigit = true := by
  rcases List.mem_append.1 h with h | h
  · rw [(List.mem_replicate.1 h).2]
    rfl
  · exact isDigit_toDigits h

/-- Digits are the padded digits of their number if there are no more of them than need be. -/
theorem paddedDigits_ofDigitChars {width : Nat} {cs : List Char}
    (h : ∀ c ∈ cs, c.isDigit = true) (hpos : 0 < width) (hwidth : width ≤ cs.length)
    (hzero : cs.head? = some '0' → cs.length = width) :
    paddedDigits width (Nat.ofDigitChars 10 cs 0) = cs := by
  obtain ⟨c, cs, rfl⟩ := List.exists_cons_of_length_pos (Nat.lt_of_lt_of_le hpos hwidth)
  by_cases hc : c = '0'
  · -- a row of digits that starts with a zero has just the length of the padded digits
    have hlength := hzero (by rw [hc]; rfl)
    have hlt := ofDigitChars_lt h
    rw [hlength, ← Nat.length_toDigits_le_iff (by decide) hpos] at hlt
    refine eq_of_ofDigitChars_eq (fun _ => isDigit_paddedDigits) h ?_
      (ofDigitChars_paddedDigits _ _)
    rw [paddedDigits, List.length_append, List.length_replicate, hlength]
    omega
  · rw [paddedDigits, toDigits_ofDigitChars h hc, Nat.sub_eq_zero_of_le hwidth]
    rfl

/-- The row of digits that a decimal is written with. -/
def digits (d : Decimal) : List Char := paddedDigits (d.scale + 1) d.coefficient.natAbs

/-- The digits before the point. -/
def whole (d : Decimal) : List Char := d.digits.take (d.digits.length - d.scale)

/-- The digits behind the point. -/
def fraction (d : Decimal) : List Char := d.digits.drop (d.digits.length - d.scale)

theorem length_digits (d : Decimal) : d.scale < d.digits.length := length_paddedDigits

theorem length_fraction (d : Decimal) : d.fraction.length = d.scale := by
  have := d.length_digits
  rw [fraction, List.length_drop]
  omega

theorem length_whole (d : Decimal) : d.whole.length = d.digits.length - d.scale := by
  rw [whole, List.length_take, Nat.min_eq_left (Nat.sub_le _ _)]

theorem whole_ne_nil (d : Decimal) : d.whole ≠ [] := by
  refine List.ne_nil_of_length_pos ?_
  have := d.length_digits
  rw [length_whole]
  omega

theorem whole_append_fraction (d : Decimal) : d.whole ++ d.fraction = d.digits :=
  List.take_append_drop _ _

theorem ofDigitChars_digits (d : Decimal) :
    Nat.ofDigitChars 10 (d.whole ++ d.fraction) 0 = d.coefficient.natAbs := by
  rw [whole_append_fraction, digits, ofDigitChars_paddedDigits]

theorem isDigit_whole (d : Decimal) {c : Char} (h : c ∈ d.whole) : c.isDigit = true :=
  isDigit_paddedDigits (List.mem_of_mem_take h)

theorem isDigit_fraction (d : Decimal) {c : Char} (h : c ∈ d.fraction) : c.isDigit = true :=
  isDigit_paddedDigits (List.mem_of_mem_drop h)

theorem length_paddedDigits_of_head? {width n : Nat}
    (h : (paddedDigits (width + 1) n).head? = some '0') :
    (paddedDigits (width + 1) n).length = width + 1 := by
  have hpos : 0 < (Nat.toDigits 10 n).length := Nat.length_toDigits_pos
  rcases Nat.lt_or_ge (Nat.toDigits 10 n).length (width + 1) with hlt | hge
  · rw [paddedDigits, List.length_append, List.length_replicate]
    omega
  · have hnone : paddedDigits (width + 1) n = Nat.toDigits 10 n := by
      rw [paddedDigits, Nat.sub_eq_zero_of_le hge]
      rfl
    rw [hnone] at h ⊢
    rw [toDigits_of_head? h] at hge ⊢
    exact Nat.le_antisymm (Nat.succ_le_succ (Nat.zero_le _)) hge

/-- No zero stands before another digit before the point. -/
theorem whole_of_head? (d : Decimal) (h : d.whole.head? = some '0') : d.whole = ['0'] := by
  have hhead : d.digits.head? = some '0' := by
    rw [← whole_append_fraction, List.head?_append, h, Option.some_or]
  have hlength : d.whole.length = 1 := by
    rw [length_whole, digits, length_paddedDigits_of_head? hhead]
    omega
  obtain ⟨c, hc⟩ := List.length_eq_one_iff.1 hlength
  rw [hc] at h ⊢
  exact congrArg (fun c => [c]) (Option.some.inj h)

theorem text_eq_spelling (d : Decimal) :
    d.text = spelling (decide (d.coefficient < 0)) d.whole d.fraction := by
  have hempty : d.fraction = [] ↔ d.scale = 0 := by
    rw [← List.length_eq_zero_iff, length_fraction]
  simp only [text, spelling, hempty, decide_eq_true_eq]
  rfl

/-- **A written decimal is read as itself.** -/
theorem read_text (d : Decimal) : read d.text = .ok d := by
  obtain ⟨d', hread, hcoefficient, hscale⟩ :=
    read_spelling (decide (d.coefficient < 0)) d.whole_ne_nil (fun _ => d.isDigit_whole)
      (fun _ => d.isDigit_fraction) (by rw [length_fraction]; exact d.scale_le)
      (by rw [ofDigitChars_digits]; exact d.natAbs_lt)
  rw [text_eq_spelling, hread]
  congr 1
  refine eq_of_coefficient_of_scale ?_ (hscale.trans d.length_fraction)
  rw [hcoefficient, ofDigitChars_digits, signed_natAbs]

/-! ### Canonical texts -/

/-- The texts that are the written form of a decimal. -/
inductive Canonical : List Char → Prop where
  /-- No superfluous zero, at most 28 digits behind the point, room for the digits, and no sign
  before zero. -/
  | mk {negative : Bool} {whole fraction : List Char} (hne : whole ≠ [])
      (hwhole : ∀ c ∈ whole, c.isDigit = true)
      (hzero : whole.head? = some '0' → whole = ['0'])
      (hfraction : ∀ c ∈ fraction, c.isDigit = true) (hlength : fraction.length ≤ 28)
      (hlt : Nat.ofDigitChars 10 (whole ++ fraction) 0 < 79228162514264337593543950336)
      (hsign : negative = true → Nat.ofDigitChars 10 (whole ++ fraction) 0 ≠ 0) :
    Canonical (spelling negative whole fraction)

theorem canonical_text (d : Decimal) : Canonical d.text := by
  rw [text_eq_spelling]
  refine .mk d.whole_ne_nil (fun _ => d.isDigit_whole) d.whole_of_head?
    (fun _ => d.isDigit_fraction) (by rw [length_fraction]; exact d.scale_le)
    (by rw [ofDigitChars_digits]; exact d.natAbs_lt) fun hsign => ?_
  rw [ofDigitChars_digits]
  have := of_decide_eq_true hsign
  omega

/-- **A canonical text is read, and written back as it was.** -/
theorem exists_read_of_canonical {cs : List Char} (h : Canonical cs) :
    ∃ d, read cs = .ok d ∧ d.text = cs := by
  obtain @⟨negative, whole, fraction, hne, hwhole, hzero, hfraction, hlength, hlt, hsign⟩ := h
  obtain ⟨d, hread, hcoefficient, hscale⟩ :=
    read_spelling negative hne hwhole hfraction hlength hlt
  refine ⟨d, hread, ?_⟩
  have hpos := List.length_pos_iff.2 hne
  have hdigits : d.digits = whole ++ fraction := by
    rw [digits, hcoefficient, natAbs_signed, hscale]
    refine paddedDigits_ofDigitChars (List.forall_mem_append.2 ⟨hwhole, hfraction⟩)
      (Nat.succ_pos _) (by rw [List.length_append]; omega) fun hhead => ?_
    rw [List.head?_append, List.head?_eq_some_head hne, Option.some_or,
      ← List.head?_eq_some_head hne] at hhead
    rw [List.length_append, hzero hhead, List.length_singleton, Nat.add_comm]
  have hcut : d.digits.length - d.scale = whole.length := by
    rw [hdigits, hscale, List.length_append, Nat.add_sub_cancel]
  rw [text_eq_spelling, hcoefficient, decide_signed hsign, Decimal.whole, Decimal.fraction, hcut,
    hdigits, List.take_left, List.drop_left]

/-- There is no white space around a canonical text. -/
theorem trim_of_canonical {cs : List Char} (h : Canonical cs) : Text.trim cs = cs := by
  obtain @⟨negative, whole, fraction, hne, hwhole, hzero, hfraction, hlength, hlt, hsign⟩ := h
  refine Text.trim_eq_self (Text.trimmed_of_forall fun c hc => ?_)
  have hchar : c = '-' ∨ c = '.' ∨ c.isDigit = true := by
    simp only [spelling, List.mem_append] at hc
    rcases hc with (hc | hc) | hc
    · split at hc
      · exact Or.inl (List.mem_singleton.1 hc)
      · cases hc
    · exact Or.inr (Or.inr (hwhole c hc))
    · split at hc
      · cases hc
      · rcases List.mem_cons.1 hc with rfl | hc
        · exact Or.inr (Or.inl rfl)
        · exact Or.inr (Or.inr (hfraction c hc))
  rcases hchar with rfl | rfl | hdigit
  · decide
  · decide
  · obtain ⟨h₁, h₂⟩ := isDigit_iff.1 hdigit
    simp [Text.isBlank]
    omega

end BookFeed.Decimal
