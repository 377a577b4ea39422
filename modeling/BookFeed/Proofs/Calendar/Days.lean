import Mathlib.Logic.Function.Iterate
import Mathlib.Tactic.SplitIfs
import BookFeed.Calendar.Date

set_option autoImplicit false

/-!
# Counting days

The number of a day is computed from its year, its month and its day at once. Here days are
counted one by one, forward and back from 1970-01-01, which is day zero. Both ways give every
day the same number, and no two days have one number.

## Main definitions

* `BookFeed.Calendar.Date.Valid` — a day of the calendar.
* `BookFeed.Calendar.Date.next` — the day after it.
* `BookFeed.Calendar.Date.Numbered` — counting.

## Main results

* `BookFeed.Calendar.Date.dayNumber_next` — the computed number goes up by one from day to
  day.
* `BookFeed.Calendar.Date.numbered_iff` — it is the one that is counted.
* `BookFeed.Calendar.Date.endsMonthAfter_iff` — where months end.
-/

namespace BookFeed.Calendar.Date

/-! ### Days -/

/-- A day of the calendar. -/
structure Valid (d : Date) : Prop where
  month : 1 ≤ d.month ∧ d.month ≤ 12
  day : 1 ≤ d.day ∧ d.day ≤ monthLength d.year d.month

theorem valid_mk {year month day : Nat} : (⟨year, month, day⟩ : Date).Valid ↔
    (1 ≤ month ∧ month ≤ 12) ∧ 1 ≤ day ∧ day ≤ monthLength year month :=
  ⟨fun h => ⟨h.month, h.day⟩, fun h => ⟨h.1, h.2⟩⟩

theorem ofParts?_eq_some_iff {year month day : Nat} {d : Date} :
    ofParts? year month day = some d ↔ d = ⟨year, month, day⟩ ∧ d.Valid := by
  unfold ofParts?
  constructor
  · intro h
    split at h
    · next hparts =>
      obtain rfl := Option.some.inj h
      exact ⟨rfl, ⟨hparts.1, hparts.2.1⟩, hparts.2.2⟩
    · cases h
  · rintro ⟨rfl, ⟨hmonth, hmonth'⟩, hday⟩
    exact if_pos ⟨hmonth, hmonth', hday⟩

/-- The day after a day. -/
def next (d : Date) : Date :=
  if d.day < monthLength d.year d.month then { d with day := d.day + 1 }
  else if d.month < 12 then ⟨d.year, d.month + 1, 1⟩
  else ⟨d.year + 1, 1, 1⟩

/-- Days that are counted one by one from 1970-01-01. -/
inductive Numbered : Date → Int → Prop where
  /-- The day that counting starts with. -/
  | epoch : Numbered ⟨1970, 1, 1⟩ 0
  /-- One day on. -/
  | next {d : Date} {n : Int} (h : Numbered d n) : Numbered d.next (n + 1)
  /-- One day back. -/
  | previous {d : Date} {n : Int} (hd : d.Valid) (h : Numbered d.next (n + 1)) : Numbered d n

theorem le_monthLength (year month : Nat) : 28 ≤ monthLength year month := by
  unfold monthLength
  split_ifs <;> omega

theorem monthLength_le (year month : Nat) : monthLength year month ≤ 31 := by
  unfold monthLength
  split_ifs <;> omega

theorem valid_next {d : Date} (h : d.Valid) : d.next.Valid := by
  obtain ⟨hmonth, hday⟩ := h
  unfold next
  split_ifs with hlast hyear
  · exact valid_mk.2 ⟨hmonth, by omega⟩
  · have hlength := le_monthLength d.year (d.month + 1)
    exact valid_mk.2 ⟨by omega, by omega⟩
  · exact valid_mk.2 ⟨by decide, Nat.le_refl 1, Nat.le_of_ble_eq_true rfl⟩

/-- A month begins behind its last day. -/
theorem day_next_eq_one_iff {d : Date} (h : d.Valid) :
    d.next.day = 1 ↔ d.day = monthLength d.year d.month := by
  have hday := h.day
  unfold next
  split_ifs with hlast hyear
  · dsimp only
    omega
  · exact iff_of_true rfl (by omega)
  · exact iff_of_true rfl (by omega)

/-! ### From day to day -/

theorem daysBeforeMonth_succ (year : Nat) {month : Nat} (h : 1 ≤ month) :
    daysBeforeMonth year (month + 1) = daysBeforeMonth year month + monthLength year month := by
  obtain ⟨m, rfl⟩ := Nat.exists_eq_add_of_le' h
  simp [daysBeforeMonth, List.range_succ]

/-- How many days a year has. -/
def yearLength (year : Nat) : Nat := if isLeap year then 366 else 365

theorem daysBeforeMonth_thirteen (year : Nat) : daysBeforeMonth year 13 = yearLength year := by
  cases h : isLeap year <;> simp [daysBeforeMonth, List.range_succ, monthLength, yearLength, h]

theorem daysBeforeYear_succ (year : Nat) :
    daysBeforeYear (year + 1) = daysBeforeYear year + yearLength year := by
  have hleap : isLeap year = true ↔ year % 4 = 0 ∧ (year % 100 ≠ 0 ∨ year % 400 = 0) := by
    simp [isLeap]
  simp only [daysBeforeYear, yearLength]
  split_ifs with h
  · rw [hleap] at h
    omega
  · rw [hleap] at h
    omega

/-- The number of a day goes up by one from day to day. -/
theorem dayNumber_next {d : Date} (h : d.Valid) : d.next.dayNumber = d.dayNumber + 1 := by
  obtain ⟨hmonth, hday⟩ := h
  unfold next
  split_ifs with hlast hyear
  · simp only [dayNumber]
    omega
  · have hdays := daysBeforeMonth_succ d.year hmonth.1
    simp only [dayNumber, hdays]
    omega
  · have hmonth' : d.month = 12 := by omega
    have hdays : daysBeforeMonth d.year 13 = daysBeforeMonth d.year 12 + 31 :=
      daysBeforeMonth_succ d.year (by decide)
    have hlength : monthLength d.year 12 = 31 := rfl
    have hfirst : daysBeforeMonth (d.year + 1) 1 = 0 := rfl
    rw [daysBeforeMonth_thirteen] at hdays
    rw [hmonth', hlength] at hday hlast
    simp only [dayNumber, hmonth', daysBeforeYear_succ, hfirst]
    omega

/-! ### All days -/

/-- The first day of all. -/
def first : Date := ⟨0, 1, 1⟩

theorem valid_first : first.Valid := ⟨by decide, by decide⟩

/-- How far a day is in a calendar in which all months have 31 days. -/
def rank (d : Date) : Nat := 372 * d.year + 31 * d.month + d.day

/-- Before each day but the first one there is another one. -/
theorem exists_previous {d : Date} (h : d.Valid) (hfirst : d ≠ first) :
    ∃ p : Date, p.Valid ∧ p.next = d ∧ p.rank < d.rank := by
  obtain ⟨year, month, day⟩ := d
  obtain ⟨hmonth, hday⟩ := h
  dsimp only at hmonth hday
  by_cases hone : day = 1
  · subst hone
    by_cases hjanuary : month = 1
    · subst hjanuary
      have hyear : year ≠ 0 := by
        rintro rfl
        exact hfirst rfl
      obtain ⟨y, rfl⟩ := Nat.exists_eq_succ_of_ne_zero hyear
      refine ⟨⟨y, 12, 31⟩, valid_mk.2 ⟨by decide, by decide, Nat.le_refl 31⟩, rfl, ?_⟩
      simp only [rank]
      omega
    · obtain ⟨m, rfl⟩ := Nat.exists_eq_add_of_le' hmonth.1
      have hlength := le_monthLength year m
      have hlength' := monthLength_le year m
      refine ⟨⟨year, m, monthLength year m⟩, valid_mk.2 ⟨by omega, by omega⟩, ?_, ?_⟩
      · simp only [next]
        rw [if_neg (by omega), if_pos (by omega)]
      · simp only [rank]
        omega
  · obtain ⟨k, rfl⟩ := Nat.exists_eq_add_of_le' hday.1
    refine ⟨⟨year, month, k⟩, valid_mk.2 ⟨hmonth, by omega⟩, ?_, ?_⟩
    · simp only [next]
      rw [if_pos (by omega)]
    · simp only [rank]
      omega

/-- Every day comes some days after the first one. -/
theorem exists_iterate {d : Date} (h : d.Valid) : ∃ k, next^[k] first = d := by
  induction hrank : d.rank using Nat.strongRecOn generalizing d with
  | ind r ih =>
    by_cases hfirst : d = first
    · exact ⟨0, hfirst.symm⟩
    · obtain ⟨p, hp, hnext, hlt⟩ := exists_previous h hfirst
      obtain ⟨k, hk⟩ := ih p.rank (hrank ▸ hlt) hp rfl
      exact ⟨k + 1, by rw [Function.iterate_succ_apply', hk, hnext]⟩

theorem valid_iterate (k : Nat) : (next^[k] first).Valid := by
  induction k with
  | zero => exact valid_first
  | succ k ih =>
    rw [Function.iterate_succ_apply']
    exact valid_next ih

theorem dayNumber_iterate (k : Nat) : (next^[k] first).dayNumber = first.dayNumber + k := by
  induction k with
  | zero => simp
  | succ k ih =>
    rw [Function.iterate_succ_apply', dayNumber_next (valid_iterate k), ih]
    omega

/-- No two days have one number. -/
theorem eq_of_dayNumber_eq {d d' : Date} (h : d.Valid) (h' : d'.Valid)
    (heq : d.dayNumber = d'.dayNumber) : d = d' := by
  obtain ⟨k, rfl⟩ := exists_iterate h
  obtain ⟨k', rfl⟩ := exists_iterate h'
  rw [dayNumber_iterate, dayNumber_iterate] at heq
  obtain rfl : k = k' := by omega
  rfl

/-! ### Counting -/

theorem numbered_next_iff {d : Date} (h : d.Valid) {n : Int} :
    d.next.Numbered (n + 1) ↔ d.Numbered n :=
  ⟨.previous h, .next⟩

/-- All days have the numbers of the formula if the first one has. -/
theorem numbered_iterate_iff (k : Nat) :
    (next^[k] first).Numbered (next^[k] first).dayNumber ↔ first.Numbered first.dayNumber := by
  induction k with
  | zero => rfl
  | succ k ih =>
    rw [Function.iterate_succ_apply', dayNumber_next (valid_iterate k),
      numbered_next_iff (valid_iterate k), ih]

/-- **Counting days gives the number of the formula**, and there is no other way to count
them. -/
theorem numbered_iff {d : Date} {n : Int} : d.Numbered n ↔ d.Valid ∧ n = d.dayNumber := by
  constructor
  · intro h
    induction h with
    | epoch => exact ⟨⟨by decide, by decide⟩, by decide⟩
    | next _ ih => exact ⟨valid_next ih.1, by rw [dayNumber_next ih.1, ih.2]⟩
    | previous hd _ ih =>
      rw [dayNumber_next hd] at ih
      exact ⟨hd, by omega⟩
  · rintro ⟨hd, rfl⟩
    obtain ⟨k, rfl⟩ := exists_iterate hd
    -- counting back from 1970 gets to the first day, and counting on from there to any other
    have hepoch : (⟨1970, 1, 1⟩ : Date).Valid := ⟨by decide, by decide⟩
    obtain ⟨j, hj⟩ := exists_iterate hepoch
    have hfirst : first.Numbered first.dayNumber := by
      rw [← numbered_iterate_iff j, hj]
      exact .epoch
    exact (numbered_iterate_iff k).2 hfirst

/-- There is one day of a number. -/
theorem exists_numbered_iff {d : Date} (h : d.Valid) {p : Date → Prop} :
    (∃ f : Date, f.Numbered d.dayNumber ∧ p f) ↔ p d := by
  constructor
  · rintro ⟨f, hf, hp⟩
    obtain ⟨hvalid, heq⟩ := numbered_iff.1 hf
    rwa [eq_of_dayNumber_eq h hvalid heq]
  · exact fun hp => ⟨d, numbered_iff.2 ⟨h, rfl⟩, hp⟩

/-- Whether a month ends a day before, on or after a day: the next day is the first one of a
month. -/
theorem endsMonthAfter_iff {d : Date} (h : d.Valid) {shift : Int}
    (hshift : -1 ≤ shift ∧ shift ≤ 1) :
    d.endsMonthAfter shift = true ↔
      ∃ f : Date, f.Numbered (d.dayNumber + shift + 1) ∧ f.day = 1 := by
  have hday := h.day
  have hnext := valid_next h
  have hlength := le_monthLength d.next.year d.next.month
  have hends : d.endsMonthAfter shift = true ↔
      (d.day : Int) + shift = 0 ∨ (d.day : Int) + shift = monthLength d.year d.month := by
    simp [endsMonthAfter]
  rw [hends]
  obtain rfl | rfl | rfl : shift = -1 ∨ shift = 0 ∨ shift = 1 := by omega
  · have hnumber : d.dayNumber + -1 + 1 = d.dayNumber := by omega
    rw [hnumber, exists_numbered_iff h (p := fun f => f.day = 1)]
    omega
  · have hnumber : d.dayNumber + 0 + 1 = d.next.dayNumber := by
      rw [dayNumber_next h]
      omega
    rw [hnumber, exists_numbered_iff hnext (p := fun f => f.day = 1), day_next_eq_one_iff h]
    omega
  · have hnumber : d.dayNumber + 1 + 1 = d.next.next.dayNumber := by
      rw [dayNumber_next hnext, dayNumber_next h]
    rw [hnumber, exists_numbered_iff (valid_next hnext) (p := fun f => f.day = 1),
      day_next_eq_one_iff hnext]
    by_cases hlast : d.day < monthLength d.year d.month
    · have heq : d.next = { d with day := d.day + 1 } := if_pos hlast
      rw [heq]
      dsimp only
      omega
    · have hone : d.next.day = 1 := (day_next_eq_one_iff h).2 (by omega)
      omega

end BookFeed.Calendar.Date
