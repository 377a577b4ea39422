import Mathlib.Tactic.Convert
import Mathlib.Tactic.NormNum
import BookFeed.Proofs.Calendar.Rfc3339
import BookFeed.Proofs.Json.Kept
import BookFeed.Proofs.Text.Blank
import BookFeed.Seed.Timestamp

set_option autoImplicit false

/-!
# Times of all forms

A time comes as a number of milliseconds, as such a number in a string, or as an instant in RFC
3339 form. All of them are brought to milliseconds, so that they can be compared. An instant may
have more digits than milliseconds have room for: first what is behind the ninth digit is left
out, and then what is left of a millisecond is cut off toward 1970. Neither changes the order of
two instants.

## Main definitions

* `BookFeed.Seed.Timestamp.Counts`, `BookFeed.Seed.Timestamp.Tells` — texts of numbers and of
  instants.
* `BookFeed.Seed.Timestamp.millisOf` — the milliseconds of an instant.

## Main results

* `BookFeed.Seed.Timestamp.textMillis_eq_some_iff` — which texts are understood, and how.
* `BookFeed.Seed.Timestamp.millisOf_mono`, `BookFeed.Seed.Timestamp.abs_millisOf_sub_lt` —
  order and distance.
* `BookFeed.Seed.Timestamp.comparable` — times of all forms can be compared.
-/

namespace BookFeed.Seed.Timestamp

open Calendar Json

/-! ### Texts -/

/-- How a whole number is written, with any number of digits. -/
inductive IntegerSpelt : Int → List Char → Prop where
  /-- Digits alone. -/
  | bare {ds : List Char} (hne : ds ≠ []) (h : ∀ c ∈ ds, isDigit c = true) :
    IntegerSpelt (digitsValue ds) ds
  /-- A plus sign. -/
  | plus {ds : List Char} (hne : ds ≠ []) (h : ∀ c ∈ ds, isDigit c = true) :
    IntegerSpelt (digitsValue ds) ('+' :: ds)
  /-- A minus sign. -/
  | minus {ds : List Char} (hne : ds ≠ []) (h : ∀ c ∈ ds, isDigit c = true) :
    IntegerSpelt (-digitsValue ds) ('-' :: ds)

/-- A text with white space around it. -/
inductive Around (inner : List Char → Prop) : String → Prop where
  /-- White space at both ends. -/
  | mk {s : String} {b cs b' : List Char} (hb : ∀ c ∈ b, Text.isBlank c = true) (h : inner cs)
      (hb' : ∀ c ∈ b', Text.isBlank c = true) (hs : s.toList = b ++ cs ++ b') : Around inner s

/-- A text of a whole number of 64 bits. -/
def Counts (s : String) (n : Int) : Prop :=
  Around (IntegerSpelt n) s ∧ -9223372036854775808 ≤ n ∧ n < 9223372036854775808

/-- A text of an instant in RFC 3339 form, in seconds since 1970-01-01 in UTC. -/
def Tells (s : String) (e : ℚ) : Prop := ∃ m : Moment, Around m.Spelt s ∧ m.Denotes e

/-- The milliseconds of an instant: whole nanoseconds, cut off toward 1970. -/
def millisOf (e : ℚ) : Int := ⌊10 ^ 9 * e⌋.tdiv 1000000

/-- What is read behind a sign: digits that stand for a number in range. -/
theorem row_eq_some_iff {ds : List Char} {v n : Int} :
    (if ds.isEmpty ∨ !ds.all isDigit then none
      else if -9223372036854775808 ≤ v ∧ v < 9223372036854775808 then some v else none) =
        some n ↔
      (ds ≠ [] ∧ ∀ c ∈ ds, isDigit c = true) ∧ v = n ∧
        -9223372036854775808 ≤ n ∧ n < 9223372036854775808 := by
  have hrow : (ds.isEmpty ∨ !ds.all isDigit) ↔
      ¬ (ds ≠ [] ∧ ∀ c ∈ ds, isDigit c = true) := by
    simp [imp_iff_not_or]
  constructor
  · intro h
    split at h
    · cases h
    · next hds =>
      rw [hrow, not_not] at hds
      split at h
      · next hrange =>
        obtain rfl := Option.some.inj h
        exact ⟨hds, rfl, hrange⟩
      · cases h
  · rintro ⟨hds, rfl, hrange⟩
    rw [if_neg (by rwa [hrow, not_not]), if_pos hrange]

theorem readInteger_eq_some_iff {cs : List Char} {n : Int} : readInteger cs = some n ↔
    IntegerSpelt n cs ∧ -9223372036854775808 ≤ n ∧ n < 9223372036854775808 := by
  constructor
  · intro h
    simp only [readInteger] at h
    split at h
    · obtain ⟨⟨hne, hds⟩, rfl, hrange⟩ := row_eq_some_iff.1 h
      exact ⟨.minus hne hds, hrange⟩
    · obtain ⟨⟨hne, hds⟩, rfl, hrange⟩ := row_eq_some_iff.1 h
      exact ⟨.plus hne hds, hrange⟩
    · obtain ⟨⟨hne, hds⟩, rfl, hrange⟩ := row_eq_some_iff.1 h
      exact ⟨.bare hne hds, hrange⟩
  · rintro ⟨h, hrange⟩
    cases h with
    | bare hne h =>
      simp only [readInteger]
      -- digits do not start with a sign
      split
      · exact absurd (h '-' List.mem_cons_self) (by decide)
      · exact absurd (h '+' List.mem_cons_self) (by decide)
      · exact row_eq_some_iff.2 ⟨⟨hne, h⟩, rfl, hrange⟩
    | plus hne h => exact row_eq_some_iff.2 ⟨⟨hne, h⟩, rfl, hrange⟩
    | minus hne h => exact row_eq_some_iff.2 ⟨⟨hne, h⟩, rfl, hrange⟩

/-- Behind a sign there are digits. -/
theorem IntegerSpelt.tail {n : Int} {cs : List Char} (h : IntegerSpelt n cs) :
    ∀ c ∈ cs.tail, isDigit c = true := by
  cases h with
  | bare hne h => exact fun c hc => h c (List.mem_of_mem_tail hc)
  | plus hne h => exact h
  | minus hne h => exact h

theorem isBlank_of_isDigit {c : Char} (h : isDigit c = true) : Text.isBlank c = false := by
  have hdigit := Decimal.isDigit_iff.1 (h : c.isDigit = true)
  simp only [Text.isBlank, Bool.or_eq_false_iff, Bool.and_eq_false_iff, decide_eq_false_iff_not,
    beq_eq_false_iff_ne]
  omega

theorem trimmed_of_integerSpelt {cs : List Char} {n : Int} (h : IntegerSpelt n cs) :
    Text.Trimmed cs := by
  refine Text.trimmed_of_forall ?_
  cases h with
  | bare hne h => exact fun c hc => isBlank_of_isDigit (h c hc)
  | plus hne h =>
    exact List.forall_mem_cons.2 ⟨by decide, fun c hc => isBlank_of_isDigit (h c hc)⟩
  | minus hne h =>
    exact List.forall_mem_cons.2 ⟨by decide, fun c hc => isBlank_of_isDigit (h c hc)⟩

theorem isBlank_of_row {n : Nat} {ds : List Char} (h : Row n ds) :
    ∀ c ∈ ds, Text.isBlank c = false :=
  fun c hc => isBlank_of_isDigit (h.isDigit c hc)

theorem isBlank_of_offsetSpelt {offset : Int} {os : List Char} (h : OffsetSpelt offset os) :
    ∀ c ∈ os, Text.isBlank c = false := by
  cases h with
  | utc h => exact List.forall_mem_singleton.2 (by rcases h with rfl | rfl <;> decide)
  | ahead hhours hminutes =>
    exact List.forall_mem_append.2 ⟨List.forall_mem_cons.2 ⟨by decide, isBlank_of_row hhours⟩,
      List.forall_mem_cons.2 ⟨by decide, isBlank_of_row hminutes⟩⟩
  | behind hhours hminutes =>
    exact List.forall_mem_append.2 ⟨List.forall_mem_cons.2 ⟨by decide, isBlank_of_row hhours⟩,
      List.forall_mem_cons.2 ⟨by decide, isBlank_of_row hminutes⟩⟩

/-- The first character is a digit of the year and the last one belongs to the offset. -/
theorem trimmed_of_spelt {cs : List Char} {m : Moment} (h : m.Spelt cs) : Text.Trimmed cs := by
  cases h with
  | @mk _ _ _ _ _ _ _ _ os _ _ hyear _ _ _ _ _ _ _ hoffset =>
    have hne : os ≠ [] := by cases hoffset <;> simp
    constructor
    · intro c hc
      obtain ⟨d, year', rfl⟩ := List.exists_cons_of_length_eq_add_one hyear.length
      obtain rfl : d = c := by simpa using hc
      exact isBlank_of_row hyear d List.mem_cons_self
    · intro c hc
      have hlast : c ∈ os.getLast? := by
        simp only [← List.cons_append, ← List.append_assoc] at hc
        rwa [List.getLast?_append_of_ne_nil _ hne] at hc
      exact isBlank_of_offsetSpelt hoffset c (List.mem_of_getLast? hlast)

/-- What tells an instant is no number, since a sign stands behind the year. -/
theorem readInteger_of_spelt {cs : List Char} {m : Moment} (h : m.Spelt cs) :
    readInteger cs = none := by
  refine Option.eq_none_iff_forall_ne_some.2 fun n hn => ?_
  have htail := (readInteger_eq_some_iff.1 hn).1.tail
  cases h with
  | @mk year month day hour minute second fraction fs os separator offset hyear _ _ _ _ _ _ _ _ =>
    obtain ⟨c, year', rfl⟩ := List.exists_cons_of_length_eq_add_one hyear.length
    exact absurd (htail '-' (by simp)) (by decide)

theorem instantMillis_eq_some_iff {cs : List Char} {x : Int} :
    instantMillis cs = some x ↔
      ∃ m : Moment, m.Spelt cs ∧ ∃ e, m.Denotes e ∧ x = millisOf e := by
  rw [instantMillis, Option.bind_eq_bind, Option.bind_eq_some_iff]
  simp only [Moment.parse?_eq_some_iff]
  refine exists_congr fun m => and_congr_right fun hm => ?_
  rw [Option.bind_eq_bind, Option.bind_eq_some_iff]
  simp only [Moment.nanoseconds?_eq_some_iff hm.isDigit_fraction hm.natAbs_offset_lt]
  constructor
  · rintro ⟨n, ⟨e, he, rfl⟩, hx⟩
    exact ⟨e, he, (Option.some.inj hx).symm⟩
  · rintro ⟨e, he, rfl⟩
    exact ⟨_, ⟨e, he, rfl⟩, rfl⟩

/-- **Which texts are understood, and how.** -/
theorem textMillis_eq_some_iff {s : String} {x : Int} :
    textMillis s = some x ↔ Counts s x ∨ ∃ e, Tells s e ∧ x = millisOf e := by
  constructor
  · intro h
    obtain ⟨b, b', hb, hb', hs⟩ := Text.exists_trim s.toList
    have haround {inner : List Char → Prop} (h : inner (Text.trim s.toList)) : Around inner s :=
      .mk hb h hb' hs
    simp only [textMillis] at h
    cases hread : readInteger (Text.trim s.toList) with
    | some n =>
      rw [hread] at h
      obtain rfl := Option.some.inj h
      obtain ⟨hspelt, hrange⟩ := readInteger_eq_some_iff.1 hread
      exact .inl ⟨haround hspelt, hrange⟩
    | none =>
      rw [hread] at h
      obtain ⟨m, hspelt, e, he, hx⟩ := instantMillis_eq_some_iff.1 h
      exact .inr ⟨e, ⟨m, haround hspelt, he⟩, hx⟩
  · rintro (⟨hs, hrange⟩ | ⟨e, ⟨m, hs, he⟩, rfl⟩)
    · obtain ⟨hb, h, hb', hs⟩ := hs
      have hread := readInteger_eq_some_iff.2 ⟨h, hrange⟩
      simp only [textMillis]
      rw [hs, Text.trim_append hb (trimmed_of_integerSpelt h) hb', hread]
      rfl
    · obtain ⟨hb, h, hb', hs⟩ := hs
      have hmillis := instantMillis_eq_some_iff.2 ⟨m, h, e, he, rfl⟩
      simp only [textMillis]
      rw [hs, Text.trim_append hb (trimmed_of_spelt h) hb', readInteger_of_spelt h, hmillis]
      rfl

/-! ### Order and distance -/

theorem millisOf_mono {e f : ℚ} (h : e ≤ f) : millisOf e ≤ millisOf f := by
  have hfloor : ⌊10 ^ 9 * e⌋ ≤ ⌊10 ^ 9 * f⌋ := Int.floor_mono (by linarith)
  exact Int.tdiv_le_tdiv (by decide) hfloor

/-- An instant is less than a millisecond away. -/
theorem abs_millisOf_sub_lt (e : ℚ) : |(millisOf e : ℚ) - 1000 * e| < 1 := by
  have hle : (⌊10 ^ 9 * e⌋ : ℚ) ≤ 10 ^ 9 * e := Int.floor_le _
  have hlt : 10 ^ 9 * e < (⌊10 ^ 9 * e⌋ : ℚ) + 1 := Int.lt_floor_add_one _
  rw [millisOf]
  generalize ⌊10 ^ 9 * e⌋ = k at hle hlt ⊢
  have hsplit := Int.mul_tdiv_add_tmod k 1000000
  have hmin := Int.lt_tmod_of_pos k (show 0 < 1000000 by decide)
  have hmax := Int.tmod_lt_of_pos k (show 0 < 1000000 by decide)
  have hbelow : k.tdiv 1000000 * 1000000 ≤ k + 999999 := by omega
  have habove : k + 1 ≤ k.tdiv 1000000 * 1000000 + 1000000 := by omega
  have hbelow' : (k.tdiv 1000000 : ℚ) * 1000000 ≤ k + 999999 := by exact_mod_cast hbelow
  have habove' : (k : ℚ) + 1 ≤ k.tdiv 1000000 * 1000000 + 1000000 := by exact_mod_cast habove
  rw [abs_lt]
  constructor <;> linarith

/-! ### Numbers and strings -/

theorem integerSpelt_integerText (n : Int) : IntegerSpelt n (Value.integerText n) := by
  have hdigits : ∀ c ∈ Nat.toDigits 10 n.natAbs, isDigit c = true :=
    fun c hc => Decimal.isDigit_toDigits hc
  have hvalue : digitsValue (Nat.toDigits 10 n.natAbs) = n.natAbs := Nat.ofDigitChars_ten_toDigits
  unfold Value.integerText
  split
  · next hneg =>
    have hminus := IntegerSpelt.minus Nat.toDigits_ne_nil hdigits
    rwa [hvalue, Int.ofNat_natAbs_of_nonpos hneg.le, neg_neg] at hminus
  · next hpos =>
    have hbare := IntegerSpelt.bare Nat.toDigits_ne_nil hdigits
    rwa [hvalue, Int.natAbs_of_nonneg (not_lt.1 hpos)] at hbare

/-- A number is read as milliseconds. -/
theorem read_integer (depth : Nat) {n : Int} (hmin : -9223372036854775808 ≤ n)
    (hmax : n < 9223372036854775808) : read depth (Value.integer n).node = .ok (.millis n) := by
  have hread := Reader.integer_node hmin hmax
  have hvalue : ∃ x, (Numeral.ofInt n).value = .ok x := by
    obtain ⟨x, hx, -⟩ := bind_eq_ok_iff.1 hread
    exact ⟨x, hx⟩
  refine Reader.firstOf_eq_ok_iff.2 ⟨⟨hvalue, .inl rfl⟩, ?_⟩
  simp only [List.findSome?_cons, hread]
  rfl

/-- A string is read as the text that it is. -/
theorem read_string (depth : Nat) {q : Quoted} {cs : List Char} (h : q.text = .ok cs) :
    read depth (.string q) = .ok (.text (String.ofList cs)) := by
  refine Reader.firstOf_eq_ok_iff.2 ⟨⟨⟨cs, h⟩, .inl rfl⟩, ?_⟩
  simp only [List.findSome?_cons, Reader.string, h]
  rfl

/-- **Times of all forms can be compared.** A text that is understood is that of a whole number
of 64 bits, or it tells an instant in RFC 3339 form. All texts that tell instants are
understood. If one of them tells no later instant than another one, its milliseconds are no
more; if both tell the same instant, under whatever offsets, their milliseconds are the same;
and the milliseconds of an instant are less than one away from it. A whole number of 64 bits has
the same milliseconds as a number and as a string of its digits with white space around them,
and these are the number itself.

**Proof sketch.** The parts of a text are read as they are written
(`Calendar.Moment.parse?_eq_some_iff`), and computing with them gives the instant in whole
nanoseconds (`Calendar.Moment.nanoseconds?_eq_some_iff`), since the number of a day is the one
that is counted (`Calendar.Date.numbered_iff`). Leaving out digits and cutting off toward zero
are both monotone. -/
theorem comparable :
    (∀ (s : String) (x : Int), (text s).millis? = some x → Counts s x ∨ ∃ e, Tells s e) ∧
    (∀ (s t : String) (e f : ℚ), Tells s e → Tells t f → ∃ x y,
      (text s).millis? = some x ∧
      (text t).millis? = some y ∧ (e ≤ f → x ≤ y) ∧ (e = f → x = y) ∧
        |(x : ℚ) - 1000 * e| < 1) ∧
    ∀ n : Int, -9223372036854775808 ≤ n → n < 9223372036854775808 →
      ∀ (number word s : String) (q : Quoted),
      (Value.integer n).node.Padded number.toList → (Node.string q).Padded word.toList →
      q.text = .ok s.toList → Around (· = Value.integerText n) s →
      ∃ t u, Reader.run (read 0) number = .ok t ∧ Reader.run (read 0) word = .ok u ∧
        t.millis? = some n ∧ u.millis? = some n := by
  refine ⟨fun s x h => ?_, fun s t e f he hf => ?_, ?_⟩
  · exact (textMillis_eq_some_iff.1 h).imp_right fun ⟨e, he, _⟩ => ⟨e, he⟩
  · refine ⟨millisOf e, millisOf f, textMillis_eq_some_iff.2 (.inr ⟨e, he, rfl⟩),
      textMillis_eq_some_iff.2 (.inr ⟨f, hf, rfl⟩), millisOf_mono, ?_, abs_millisOf_sub_lt e⟩
    rintro rfl
    rfl
  · intro n hmin hmax number word s q hnumber hword hq hs
    obtain @⟨b, _, b', hb, rfl, hb', hs⟩ := hs
    have hcounts : Counts s n := ⟨.mk hb (integerSpelt_integerText n) hb' hs, hmin, hmax⟩
    refine ⟨.millis n, .text s, ?_, ?_, rfl, textMillis_eq_some_iff.2 (.inl hcounts)⟩
    · rw [Reader.run_of_padded _ hnumber, read_integer 0 hmin hmax]
    · rw [Reader.run_of_padded _ hword, read_string 0 hq, String.ofList_toList]

/-- A quarter of a second behind a quarter past midnight on New Year's Day, on a clock behind
UTC. -/
private def oldYear : Moment := ⟨2024, 12, 31, 23, 30, 0, ['2', '5'], -45⟩

/-- The same instant on the clock of UTC. -/
private def newYear : Moment := ⟨2025, 1, 1, 0, 15, 0, ['2', '5', '0'], 0⟩

/-- Two texts of an instant whose days, months and years differ, and a number in both forms. -/
theorem comparable_new_year :
    (∃ x, (text " 2024-12-31T23:30:00.25-00:45").millis? = some x ∧
      (text "2025-01-01 00:15:00.250z").millis? = some x ∧
        |(x : ℚ) - 1000 * (6942762001 / 4)| < 1) ∧
    ∃ t u, Reader.run (read 0) "-1" = .ok t ∧ Reader.run (read 0) "\" -1\"" = .ok u ∧
      t.millis? = some (-1) ∧ u.millis? = some (-1) := by
  have hold : Tells " 2024-12-31T23:30:00.25-00:45" (6942762001 / 4) := by
    have hdate : (⟨2024, 12, 31⟩ : Date).Numbered 20088 :=
      Date.numbered_iff.2 ⟨Date.valid_mk.2 (by decide), by decide +kernel⟩
    have hspelt : oldYear.Spelt "2024-12-31T23:30:00.25-00:45".toList :=
      Moment.parse?_eq_some_iff.1 (by decide +kernel)
    refine ⟨oldYear, @Around.mk _ _ [' '] _ [] (List.forall_mem_singleton.2 (by decide)) hspelt
      (List.forall_mem_nil _) rfl, ?_⟩
    convert @Moment.Denotes.usual oldYear 20088 hdate (by decide) (by decide) (by decide) using 1
    have hdigits : digitsValue ['2', '5'] = 25 := by decide
    norm_num [oldYear, Moment.fractionValue, hdigits]
  have hnew : Tells "2025-01-01 00:15:00.250z" (6942762001 / 4) := by
    have hdate : (⟨2025, 1, 1⟩ : Date).Numbered 20089 :=
      Date.numbered_iff.2 ⟨Date.valid_mk.2 (by decide), by decide +kernel⟩
    have hspelt : newYear.Spelt "2025-01-01 00:15:00.250z".toList :=
      Moment.parse?_eq_some_iff.1 (by decide +kernel)
    refine ⟨newYear,
      @Around.mk _ _ [] _ [] (List.forall_mem_nil _) hspelt (List.forall_mem_nil _) rfl, ?_⟩
    convert @Moment.Denotes.usual newYear 20089 hdate (by decide) (by decide) (by decide) using 1
    have hdigits : digitsValue ['2', '5', '0'] = 250 := by decide
    norm_num [newYear, Moment.fractionValue, hdigits]
  obtain ⟨x, y, hx, hy, -, heq, hdistance⟩ := comparable.2.1 _ _ _ _ hold hnew
  obtain rfl := heq rfl
  have hnumber : (Value.integer (-1)).node.Padded "-1".toList := Value.padded_toText (.integer (-1))
  have hword : (Value.string " -1".toList).node.Padded "\" -1\"".toList :=
    Value.padded_toText (.string " -1".toList)
  have hspaced : Around (· = Value.integerText (-1)) " -1" :=
    @Around.mk _ _ [' '] _ [] (List.forall_mem_singleton.2 (by decide)) rfl
      (List.forall_mem_nil _) rfl
  exact ⟨⟨x, hx, hy, hdistance⟩,
    comparable.2.2 (-1) (by decide) (by decide) _ _ _ _ hnumber hword
    (Quoted.text_ofText _) hspaced⟩

end BookFeed.Seed.Timestamp
