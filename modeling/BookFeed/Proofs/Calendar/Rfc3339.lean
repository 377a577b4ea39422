import Mathlib.Data.List.TakeWhile
import Mathlib.Data.Rat.Floor
import Mathlib.Tactic.FieldSimp
import Mathlib.Tactic.Linarith
import BookFeed.Calendar.Rfc3339
import BookFeed.Proofs.Calendar.Days
import BookFeed.Proofs.Decimal.Digits

set_option autoImplicit false

/-!
# What a text in RFC 3339 form denotes

The form says which parts stand where. An instant is then a number of seconds since 1970-01-01
in UTC, with all digits of the fraction: days are counted, the clock is added, and the offset
taken away. A leap second can only be the last second of a month in UTC, and stands for the last
nanosecond before the next month.

What is computed is this number in nanoseconds, without what is left of a nanosecond.

## Main definitions

* `BookFeed.Calendar.Moment.Spelt` — how the parts are written.
* `BookFeed.Calendar.Moment.Denotes` — the instant of the parts.

## Main results

* `BookFeed.Calendar.Moment.parse?_eq_some_iff` — reading the parts.
* `BookFeed.Calendar.Moment.nanoseconds?_eq_some_iff` — computing the instant.
-/

namespace BookFeed.Calendar

/-! ### The form -/

/-- So many digits. -/
structure Row (n : Nat) (ds : List Char) : Prop where
  length : ds.length = n
  isDigit : ∀ c ∈ ds, isDigit c = true

/-- How the fraction of a second is written. -/
inductive FractionSpelt : List Char → List Char → Prop where
  /-- There is none. -/
  | absent : FractionSpelt [] []
  /-- The point and digits. -/
  | present {ds : List Char} (hne : ds ≠ []) (h : ∀ c ∈ ds, isDigit c = true) :
    FractionSpelt ds ('.' :: ds)

/-- How an offset is written. -/
inductive OffsetSpelt : Int → List Char → Prop where
  /-- The clock is that of UTC. -/
  | utc {c : Char} (h : c = 'Z' ∨ c = 'z') : OffsetSpelt 0 [c]
  /-- Hours and minutes ahead of UTC. -/
  | ahead {hs ms : List Char} (hhours : Row 2 hs) (hminutes : Row 2 ms)
      (hday : digitsValue hs ≤ 23)
      (hhour : digitsValue ms ≤ 59) :
    OffsetSpelt (60 * digitsValue hs + digitsValue ms) ('+' :: hs ++ ':' :: ms)
  /-- Hours and minutes behind UTC. -/
  | behind {hs ms : List Char} (hhours : Row 2 hs) (hminutes : Row 2 ms)
      (hday : digitsValue hs ≤ 23)
      (hhour : digitsValue ms ≤ 59) :
    OffsetSpelt (-(60 * digitsValue hs + digitsValue ms)) ('-' :: hs ++ ':' :: ms)

/-- How the parts of an instant are written. -/
inductive Moment.Spelt : Moment → List Char → Prop where
  /-- Date, a separator, time of day, fraction and offset. -/
  | mk {year month day hour minute second fraction fs os : List Char} {separator : Char}
      {offset : Int}
      (hyear : Row 4 year) (hmonth : Row 2 month) (hday : Row 2 day)
      (hseparator : separator.toNat < 0x80)
      (hhour : Row 2 hour) (hminute : Row 2 minute) (hsecond : Row 2 second)
      (hfraction : FractionSpelt fraction fs) (hoffset : OffsetSpelt offset os) :
    Spelt ⟨digitsValue year, digitsValue month, digitsValue day, digitsValue hour,
        digitsValue minute, digitsValue second, fraction, offset⟩
      (year ++ '-' :: (month ++ '-' :: (day ++ separator :: (hour ++ ':' :: (minute ++ ':' ::
        (second ++ (fs ++ os)))))))

/-! ### Reading it -/

theorem readDigits_eq_some_iff {n v : Nat} {cs rest : List Char} :
    readDigits n cs = some (v, rest) ↔
      ∃ ds, Row n ds ∧ digitsValue ds = v ∧ cs = ds ++ rest := by
  unfold readDigits
  constructor
  · intro h
    dsimp only at h
    split at h
    · next hrow =>
      obtain ⟨rfl, rfl⟩ := Prod.mk.inj (Option.some.inj h)
      exact ⟨cs.take n, ⟨hrow.1, List.all_eq_true.1 hrow.2⟩, rfl,
        (List.take_append_drop n cs).symm⟩
    · cases h
  · rintro ⟨ds, ⟨rfl, hdigits⟩, rfl, rfl⟩
    rw [List.take_left, List.drop_left]
    exact if_pos ⟨rfl, List.all_eq_true.2 hdigits⟩

theorem readMark_eq_some_iff {mark : Char} {cs rest : List Char} :
    readMark mark cs = some rest ↔ cs = mark :: rest := by
  cases cs with
  | nil => simp [readMark]
  | cons c cs => by_cases hc : c = mark <;> simp [readMark, hc]

theorem readSeparator_eq_some_iff {cs rest : List Char} :
    readSeparator cs = some rest ↔ ∃ c : Char, c.toNat < 0x80 ∧ cs = c :: rest := by
  cases cs with
  | nil => simp [readSeparator]
  | cons c cs => simp [readSeparator]

theorem readOffset_eq_some_iff {offset : Int} {cs rest : List Char} :
    readOffset cs = some (offset, rest) ↔ ∃ os, OffsetSpelt offset os ∧ cs = os ++ rest := by
  constructor
  · intro h
    rcases cs with _ | ⟨c, cs⟩
    · cases h
    rw [readOffset] at h
    split at h
    · next hutc =>
      obtain ⟨rfl, rfl⟩ := Prod.mk.inj (Option.some.inj h)
      exact ⟨[c], .utc hutc, rfl⟩
    split at h
    · next hsign =>
      simp only [Option.bind_eq_bind, Option.bind_eq_some_iff, Prod.exists, readDigits_eq_some_iff,
        readMark_eq_some_iff] at h
      obtain ⟨_, _, ⟨hs, hhours, rfl, rfl⟩, _, rfl, _, _, ⟨ms, hminutes, rfl, rfl⟩,
        h⟩ := h
      split at h
      · next hrange =>
        obtain ⟨rfl, rfl⟩ := Prod.mk.inj (Option.some.inj h)
        rcases hsign with rfl | rfl
        · exact ⟨_, .ahead hhours hminutes hrange.1 hrange.2, by simp⟩
        · exact ⟨_, .behind hhours hminutes hrange.1 hrange.2, by simp⟩
      · cases h
    · cases h
  · rintro ⟨os, hos, rfl⟩
    have hread {ds cs : List Char} (h : Row 2 ds) : readDigits 2 (ds ++ cs) =
        some (digitsValue ds, cs) :=
      readDigits_eq_some_iff.2 ⟨ds, h, rfl, rfl⟩
    cases hos with
    | utc h => simp [readOffset, h]
    | ahead hhours hminutes hday hhour =>
      simp [readOffset, readMark, hread hhours, hread hminutes, hday, hhour]
    | behind hhours hminutes hday hhour =>
      simp [readOffset, readMark, hread hhours, hread hminutes, hday, hhour]

theorem exists_of_readFraction {ds cs rest : List Char} (h : readFraction cs = some (ds, rest)) :
    ∃ fs, FractionSpelt ds fs ∧ cs = fs ++ rest := by
  unfold readFraction at h
  split at h
  · next cs =>
    dsimp only at h
    split at h
    · cases h
    · next hne =>
      obtain ⟨rfl, rfl⟩ := Prod.mk.inj (Option.some.inj h)
      refine ⟨'.' :: cs.takeWhile isDigit, .present (by simpa using hne) fun c hc => ?_, ?_⟩
      · exact List.mem_takeWhile_imp hc
      · rw [List.cons_append, List.takeWhile_append_dropWhile]
  · obtain ⟨rfl, rfl⟩ := Prod.mk.inj (Option.some.inj h)
    exact ⟨[], .absent, rfl⟩

/-- A fraction is read up to what follows it. -/
theorem readFraction_append {ds fs rest : List Char} (h : FractionSpelt ds fs)
    (hrest : ∀ c ∈ rest.head?, isDigit c = false ∧ c ≠ '.') :
    readFraction (fs ++ rest) = some (ds, rest) := by
  cases h with
  | absent =>
    unfold readFraction
    split
    · next heq =>
      rw [List.nil_append] at heq
      exact absurd rfl (hrest '.' (by simp [heq])).2
    · rfl
  | present hne h =>
    have htake : rest.takeWhile isDigit = [] := by
      cases rest with
      | nil => rfl
      | cons c cs => simp [(hrest c rfl).1]
    have hdrop : rest.dropWhile isDigit = rest := by
      cases rest with
      | nil => rfl
      | cons c cs => simp [(hrest c rfl).1]
    simp [readFraction, List.takeWhile_append_of_pos h, List.dropWhile_append_of_pos h, htake,
      hdrop, hne]

/-- An offset does not go on with a fraction. -/
theorem OffsetSpelt.head? {offset : Int} {os : List Char} (h : OffsetSpelt offset os) :
    ∀ c ∈ os.head?, isDigit c = false ∧ c ≠ '.' := by
  intro c hc
  cases h with
  | utc h =>
    obtain rfl := Option.some.inj hc
    rcases h with rfl | rfl <;> decide
  | ahead =>
    obtain rfl := Option.some.inj hc
    decide
  | behind =>
    obtain rfl := Option.some.inj hc
    decide

/-- **Reading the parts.** -/
theorem Moment.parse?_eq_some_iff {m : Moment} {cs : List Char} :
    parse? cs = some m ↔ m.Spelt cs := by
  constructor
  · intro h
    simp only [parse?, Option.bind_eq_bind, Option.bind_eq_some_iff, Prod.exists,
      readDigits_eq_some_iff, readMark_eq_some_iff, readSeparator_eq_some_iff,
      readOffset_eq_some_iff] at h
    obtain ⟨_, _, ⟨year, hyear, rfl, rfl⟩, _, rfl, _, _, ⟨month, hmonth, rfl, rfl⟩, _,
      rfl, _, _, ⟨day, hday, rfl, rfl⟩, _, ⟨separator, hseparator, rfl⟩, _, _,
      ⟨hour, hhour, rfl, rfl⟩, _, rfl, _, _, ⟨minute, hminute, rfl, rfl⟩, _, rfl, _, _,
      ⟨second, hsecond, rfl, rfl⟩, fraction, _, hread, offset, _, ⟨os, hoffset, rfl⟩,
      h⟩ := h
    obtain ⟨fs, hfraction, rfl⟩ := exists_of_readFraction hread
    split at h
    · next hend =>
      obtain rfl := List.isEmpty_iff.1 hend
      obtain rfl := Option.some.inj h
      rw [List.append_nil]
      exact .mk hyear hmonth hday hseparator hhour hminute hsecond hfraction hoffset
    · cases h
  · intro h
    obtain @⟨year, month, day, hour, minute, second, fraction, fs, os, separator, offset, hyear,
      hmonth, hday, hseparator, hhour, hminute, hsecond, hfraction, hoffset⟩ := h
    have hmark (mark : Char) (cs : List Char) : readMark mark (mark :: cs) = some cs :=
      readMark_eq_some_iff.2 rfl
    have hread {n : Nat} {ds : List Char} (h : Row n ds) (cs : List Char) :
        readDigits n (ds ++ cs) = some (digitsValue ds, cs) :=
      readDigits_eq_some_iff.2 ⟨ds, h, rfl, rfl⟩
    refine Option.bind_eq_some_iff.2 ⟨_, hread hyear _, ?_⟩
    refine Option.bind_eq_some_iff.2 ⟨_, hmark _ _, ?_⟩
    refine Option.bind_eq_some_iff.2 ⟨_, hread hmonth _, ?_⟩
    refine Option.bind_eq_some_iff.2 ⟨_, hmark _ _, ?_⟩
    refine Option.bind_eq_some_iff.2 ⟨_, hread hday _, ?_⟩
    refine Option.bind_eq_some_iff.2
      ⟨_, readSeparator_eq_some_iff.2 ⟨separator, hseparator, rfl⟩, ?_⟩
    refine Option.bind_eq_some_iff.2 ⟨_, hread hhour _, ?_⟩
    refine Option.bind_eq_some_iff.2 ⟨_, hmark _ _, ?_⟩
    refine Option.bind_eq_some_iff.2 ⟨_, hread hminute _, ?_⟩
    refine Option.bind_eq_some_iff.2 ⟨_, hmark _ _, ?_⟩
    refine Option.bind_eq_some_iff.2 ⟨_, hread hsecond _, ?_⟩
    refine Option.bind_eq_some_iff.2 ⟨_, readFraction_append hfraction hoffset.head?, ?_⟩
    refine Option.bind_eq_some_iff.2
      ⟨_, readOffset_eq_some_iff.2 ⟨os, hoffset, (List.append_nil os).symm⟩, rfl⟩

theorem FractionSpelt.isDigit {ds fs : List Char} (h : FractionSpelt ds fs) :
    ∀ c ∈ ds, isDigit c = true := by
  cases h with
  | absent => simp
  | present hne h => exact h

/-- A clock is less than a day away from UTC. -/
theorem OffsetSpelt.natAbs_lt {offset : Int} {os : List Char} (h : OffsetSpelt offset os) :
    offset.natAbs < 1440 := by
  cases h <;> omega

theorem Moment.Spelt.isDigit_fraction {m : Moment} {cs : List Char} (h : m.Spelt cs) :
    ∀ c ∈ m.fraction, Calendar.isDigit c = true := by
  cases h with
  | mk _ _ _ _ _ _ _ hfraction _ => exact hfraction.isDigit

theorem Moment.Spelt.natAbs_offset_lt {m : Moment} {cs : List Char} (h : m.Spelt cs) :
    m.offset.natAbs < 1440 := by
  cases h with
  | mk _ _ _ _ _ _ _ _ hoffset => exact hoffset.natAbs_lt

/-! ### Digits -/

theorem digitsValue_eq (ds : List Char) : digitsValue ds = Nat.ofDigitChars 10 ds 0 := rfl

theorem digitsValue_append (cs ds : List Char) :
    digitsValue (cs ++ ds) = digitsValue cs * 10 ^ ds.length + digitsValue ds := by
  simp only [digitsValue_eq]
  rw [Nat.ofDigitChars_append, Nat.ofDigitChars_eq_ofDigitChars_zero, Nat.mul_comm]

theorem digitsValue_lt {ds : List Char} (h : ∀ c ∈ ds, isDigit c = true) :
    digitsValue ds < 10 ^ ds.length :=
  Decimal.ofDigitChars_lt fun c hc => h c hc

namespace Moment

/-! ### Instants -/

/-- The part of a second that digits behind the point stand for. -/
def fractionValue (ds : List Char) : ℚ := digitsValue ds / 10 ^ ds.length

/-- The instant of the parts: seconds since 1970-01-01 in UTC. -/
inductive Denotes (m : Moment) : ℚ → Prop where
  /-- Days are counted, the clock is added and the offset is taken away. -/
  | usual {n : Int} (hdate : (⟨m.year, m.month, m.day⟩ : Date).Numbered n)
      (hhour : m.hour ≤ 23)
      (hminute : m.minute ≤ 59) (hsecond : m.second ≤ 59) :
    Denotes m (86400 * n + 3600 * m.hour + 60 * m.minute - 60 * m.offset + m.second +
      fractionValue m.fraction)
  /-- A leap second ends a month in UTC. It stands for the last nanosecond of the second before
  it. -/
  | leap {n k : Int} {first : Date} (hdate : (⟨m.year, m.month, m.day⟩ : Date).Numbered n)
      (hhour : m.hour ≤ 23) (hminute : m.minute ≤ 59) (hsecond : m.second = 60)
      (hfirst : first.Numbered k) (hmonth : first.day = 1)
      (hutc : 86400 * n + 3600 * m.hour + 60 * m.minute - 60 * m.offset + 60 = 86400 * k) :
    Denotes m (86400 * k - 1 / 10 ^ 9)

/-- The digits of a fraction, in nanoseconds: what is behind the ninth one is less than a
nanosecond. -/
theorem floor_fractionValue {ds : List Char} (h : ∀ c ∈ ds, isDigit c = true) :
    ⌊10 ^ 9 * fractionValue ds⌋ = fractionNanos ds := by
  by_cases hlength : ds.length ≤ 9
  · obtain ⟨k, hk⟩ := Nat.exists_eq_add_of_le hlength
    have hnanos : fractionNanos ds = digitsValue ds * 10 ^ k := by
      rw [fractionNanos, List.take_of_length_le hlength, hk, Nat.add_sub_cancel_left]
      rfl
    have hexact : 10 ^ 9 * fractionValue ds = ((fractionNanos ds : ℤ) : ℚ) := by
      rw [hnanos, fractionValue, hk, pow_add]
      push_cast
      field_simp
    rw [hexact, Int.floor_intCast]
  · obtain ⟨cs, rs, rfl, hcs⟩ : ∃ cs rs, ds = cs ++ rs ∧ cs.length = 9 :=
      ⟨ds.take 9, ds.drop 9, (List.take_append_drop 9 ds).symm, by simp; omega⟩
    have hnanos : fractionNanos (cs ++ rs) = digitsValue cs := by
      rw [fractionNanos, ← hcs, List.take_left]
      simp [hcs, tenPow_zero]
    have hsplit : 10 ^ 9 * fractionValue (cs ++ rs) =
        digitsValue cs + digitsValue rs / 10 ^ rs.length := by
      rw [fractionValue, digitsValue_append, List.length_append, hcs, pow_add]
      push_cast
      field_simp
    have hlt : (digitsValue rs : ℚ) < 10 ^ rs.length := by
      exact_mod_cast digitsValue_lt fun c hc => h c (List.mem_append_right _ hc)
    have hrest : (digitsValue rs : ℚ) / 10 ^ rs.length < 1 := (div_lt_one (by positivity)).2 hlt
    have hpos : (0 : ℚ) ≤ digitsValue rs / 10 ^ rs.length := by positivity
    rw [Int.floor_eq_iff, hsplit, hnanos]
    constructor
    · push_cast
      linarith
    · push_cast
      linarith

/-- There can be a leap second where a month ends in UTC. -/
theorem admitsLeapSecond_iff {m : Moment} {d : Date} (hd : d.Valid) (hhour : m.hour ≤ 23)
    (hminute : m.minute ≤ 59) (hsecond : m.second = 60) (hoffset : m.offset.natAbs < 1440) :
    m.admitsLeapSecond d = true ↔
      ∃ (k : Int) (first : Date), first.Numbered k ∧ first.day = 1 ∧
      86400 * d.dayNumber + 3600 * m.hour + 60 * m.minute - 60 * m.offset + 60 = 86400 * k := by
  have hutc : m.utcSeconds = 3600 * m.hour + 60 * m.minute - 60 * m.offset + 59 := by
    simp only [utcSeconds, clockSeconds, hsecond]
    push_cast
    omega
  have hshift : -1 ≤ m.utcSeconds / 86400 ∧ m.utcSeconds / 86400 ≤ 1 := by omega
  simp only [admitsLeapSecond, Bool.and_eq_true, beq_iff_eq, Date.endsMonthAfter_iff hd hshift]
  constructor
  · rintro ⟨hlast, first, hfirst, hmonth⟩
    exact ⟨_, first, hfirst, hmonth, by omega⟩
  · rintro ⟨k, first, hfirst, hmonth, hmidnight⟩
    have hk : d.dayNumber + m.utcSeconds / 86400 + 1 = k := by omega
    exact ⟨by omega, first, hk ▸ hfirst, hmonth⟩

theorem nanoseconds?_eq_some_iff_of_parts {m : Moment} {n : Int} : m.nanoseconds? = some n ↔
    (⟨m.year, m.month, m.day⟩ : Date).Valid ∧
      (m.hour ≤ 23 ∧ m.minute ≤ 59 ∧ m.second ≤ 60 ∧
      (m.second = 60 → m.admitsLeapSecond ⟨m.year, m.month, m.day⟩ = true)) ∧
    n = (86400 * (⟨m.year, m.month, m.day⟩ : Date).dayNumber + m.utcSeconds) * nanosPerSecond +
      m.nanos := by
  have hleap : m.isLeapSecond = true ↔ m.second = 60 := by simp [isLeapSecond]
  rw [nanoseconds?, Option.bind_eq_bind, Option.bind_eq_some_iff]
  constructor
  · rintro ⟨d, hd, h⟩
    obtain ⟨rfl, hvalid⟩ := Date.ofParts?_eq_some_iff.1 hd
    split at h
    · next hclock =>
      rw [hleap] at hclock
      exact ⟨hvalid, hclock, (Option.some.inj h).symm⟩
    · cases h
  · rintro ⟨hvalid, hclock, rfl⟩
    refine ⟨_, Date.ofParts?_eq_some_iff.2 ⟨rfl, hvalid⟩, ?_⟩
    rw [← hleap] at hclock
    exact if_pos hclock

/-- The nanoseconds of an instant. -/
theorem floor_of_denotes {m : Moment} (hfraction : ∀ c ∈ m.fraction, isDigit c = true) {e : ℚ}
    (h : m.Denotes e) : ⌊10 ^ 9 * e⌋ =
      (86400 * (⟨m.year, m.month, m.day⟩ : Date).dayNumber + m.utcSeconds) * nanosPerSecond +
        m.nanos := by
  cases h with
  | @usual n hdate hhour hminute hsecond =>
    obtain ⟨-, rfl⟩ := Date.numbered_iff.1 hdate
    have hnanos : m.nanos = fractionNanos m.fraction := by
      rw [nanos, isLeapSecond, if_neg (by simp; omega)]
    have hutc : m.utcSeconds = 3600 * m.hour + 60 * m.minute - 60 * m.offset + m.second := by
      simp only [utcSeconds, clockSeconds]
      omega
    have hsplit :
        (10 ^ 9 * (86400 * (⟨m.year, m.month, m.day⟩ : Date).dayNumber + 3600 * m.hour +
        60 * m.minute - 60 * m.offset + m.second + fractionValue m.fraction) : ℚ) =
        (((86400 * (⟨m.year, m.month, m.day⟩ : Date).dayNumber + m.utcSeconds) *
          nanosPerSecond : ℤ) : ℚ) +
          10 ^ 9 * fractionValue m.fraction := by
      rw [hutc, nanosPerSecond]
      push_cast
      ring
    rw [hsplit, Int.floor_intCast_add, floor_fractionValue hfraction, hnanos]
  | @leap n k first hdate hhour hminute hsecond hfirst hmonth hutc =>
    obtain ⟨-, rfl⟩ := Date.numbered_iff.1 hdate
    have hnanos : m.nanos = nanosPerSecond - 1 := by simp [nanos, isLeapSecond, hsecond]
    have hexact : (10 ^ 9 * (86400 * k - 1 / 10 ^ 9) : ℚ) =
        ((86400 * 10 ^ 9 * k - 1 : ℤ) : ℚ) := by
      push_cast
      ring
    have hclock : m.utcSeconds = 3600 * m.hour + 60 * m.minute - 60 * m.offset + 59 := by
      simp only [utcSeconds, clockSeconds, hsecond]
      omega
    rw [hexact, Int.floor_intCast, hnanos, hclock, nanosPerSecond]
    omega

/-- **Computing the instant.** -/
theorem nanoseconds?_eq_some_iff {m : Moment} (hfraction : ∀ c ∈ m.fraction, isDigit c = true)
    (hoffset : m.offset.natAbs < 1440) {n : Int} :
    m.nanoseconds? = some n ↔ ∃ e, m.Denotes e ∧ n = ⌊10 ^ 9 * e⌋ := by
  rw [nanoseconds?_eq_some_iff_of_parts]
  constructor
  · rintro ⟨hvalid, ⟨hhour, hminute, hsecond, hleap⟩, rfl⟩
    have hdate := Date.numbered_iff.2 ⟨hvalid, rfl⟩
    obtain ⟨e, he⟩ : ∃ e, m.Denotes e := by
      by_cases h60 : m.second = 60
      · obtain ⟨k, first, hfirst, hmonth, hutc⟩ :=
          (admitsLeapSecond_iff hvalid hhour hminute h60 hoffset).1 (hleap h60)
        exact ⟨_, .leap hdate hhour hminute h60 hfirst hmonth hutc⟩
      · exact ⟨_, .usual hdate hhour hminute (by omega)⟩
    exact ⟨e, he, (floor_of_denotes hfraction he).symm⟩
  · rintro ⟨e, he, rfl⟩
    rw [floor_of_denotes hfraction he]
    cases he with
    | usual hdate hhour hminute hsecond =>
      exact ⟨(Date.numbered_iff.1 hdate).1, ⟨hhour, hminute, by omega, fun h60 => by omega⟩,
        rfl⟩
    | leap hdate hhour hminute hsecond hfirst hmonth hutc =>
      obtain ⟨hvalid, rfl⟩ := Date.numbered_iff.1 hdate
      refine ⟨hvalid, ⟨hhour, hminute, hsecond.le, fun _ => ?_⟩, rfl⟩
      exact (admitsLeapSecond_iff hvalid hhour hminute hsecond hoffset).2
        ⟨_, _, hfirst, hmonth, hutc⟩

end Moment

end BookFeed.Calendar
