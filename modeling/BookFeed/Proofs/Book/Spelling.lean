import Mathlib.Data.List.DropRight
import Mathlib.Data.List.Sort
import BookFeed.Proofs.Book.Best

set_option autoImplicit false

/-!
# What a merge leaves at a price, to the letter

A level keeps the spelling of its price while its quantity is replaced, so what stands at a
price has two sources: the quantity is that of the last entry of the price, the spelling that of
the first entry since nothing stood there. Both are read off the entries of that price alone,
first those of the list that is merged into, then those of the batch. A side is told by what
stands at each price, and so two merges whose lists agree price by price have one result.

## Main definitions

* `BookFeed.Book.levelsAt`, `BookFeed.Book.standingAt` — the entries of a price, and those
  among them that are no removals.
* `BookFeed.Book.outcome` — what entries of one price leave there, one after the other.
* `BookFeed.Book.quantitySource`, `BookFeed.Book.spellingSource` — the entries that a level at
  a price has its quantity and its spelling from.

## Main results

* `BookFeed.Book.levelAt_foldl_change` — changes leave at a price what its own changes leave.
* `BookFeed.Book.levelAt_merge` — what a merge leaves at a price.
* `BookFeed.Book.eq_of_levelAt_eq` — a side is told by what stands at each price.
* `BookFeed.Book.merge_price_by_price` — all of it for a merge of any two lists.
-/

namespace BookFeed.Book

/-! ### Entries of one price -/

/-- The entries of the price `q`, in order. -/
def levelsAt (ls : List Level) (q : ℚ) : List Level :=
  ls.filter fun l => decide (l.price.value = q)

/-- The entries of the price `q` that are no removals, in order. -/
def standingAt (ls : List Level) (q : ℚ) : List Level := (levelsAt ls q).filter (!·.isRemoval)

/-- What entries of one price leave there, one after the other, where `held` is what was
there. -/
def outcome (held : Option Level) (ls : List Level) : Option Level :=
  ls.foldl (fun held l => l.over held) held

theorem levelsAt_append (ls ls' : List Level) (q : ℚ) :
    levelsAt (ls ++ ls') q = levelsAt ls q ++ levelsAt ls' q := by
  simp [levelsAt]

theorem levelsAt_filter_standing (ls : List Level) (q : ℚ) :
    levelsAt (ls.filter (!·.isRemoval)) q = standingAt ls q := by
  simp [levelsAt, standingAt, List.filter_filter, Bool.and_comm]

/-- Neighbours of different prices can change places. -/
theorem levelsAt_swap {a b : Level} (h : a.price.value ≠ b.price.value) (ls : List Level)
    (q : ℚ) :
    levelsAt (a :: b :: ls) q = levelsAt (b :: a :: ls) q := by
  by_cases ha : a.price.value = q
  · have hb : b.price.value ≠ q := fun hb => h (ha.trans hb.symm)
    simp [levelsAt, ha, hb]
  · simp [levelsAt, List.filter_cons, ha]

theorem isRemoval_of_mem_standingAt {ls : List Level} {q : ℚ} :
    ∀ l ∈ standingAt ls q, l.isRemoval = false := fun l hl => by
  simpa using (List.mem_filter.1 hl).2

theorem outcome_concat (held : Option Level) (ls : List Level) (l : Level) :
    outcome held (ls ++ [l]) = l.over (outcome held ls) := by
  simp [outcome]

theorem outcome_append (held : Option Level) (ls ls' : List Level) :
    outcome held (ls ++ ls') = outcome (outcome held ls) ls' := by
  simp [outcome]

theorem Level.over_eq_some {l : Level} (hl : l.isRemoval = false) (held : Option Level) :
    l.over held = some ⟨(held.getD l).price, l.quantity⟩ := by
  cases held <;> simp [Level.over, hl]

/-- Changes leave at a price what its own changes leave there.

**Proof sketch.** Induction on the changes, from their end: the last one decides at its own
price and touches no other. -/
theorem levelAt_foldl_change {side : Side} {levels : List Level} (h : IsSide side levels)
    (ls : List Level) (q : ℚ) :
    levelAt (ls.foldl (change side) levels) q = outcome (levelAt levels q) (levelsAt ls q) := by
  induction ls using List.reverseRecOn with
  | nil => rfl
  | append_singleton ls l ih =>
    rw [List.foldl_append, List.foldl_cons, List.foldl_nil,
      levelAt_change (isSide_foldl_change h ls).ordered, ih, levelsAt_append]
    by_cases hq : l.price.value = q
    · simp [levelsAt, hq, outcome_concat]
    · simp [levelsAt, hq]

/-! ### Quantity and spelling -/

/-- Among entries of a price, `u` held before and `w` changed since, the one that the quantity
is from: the last one. -/
def quantitySource (u w : List Level) : Option Level := w.getLast?.or u.getLast?

/-- Among entries of a price, `u` held before and `w` changed since, the one that the spelling
is from: the first one behind the last removal, if there is a removal, and otherwise the first
one of all. -/
def spellingSource (u w : List Level) : Option Level :=
  if w.any (·.isRemoval) then (w.rtakeWhile (!·.isRemoval)).head? else u.head?.or w.head?

/-- Over a level that stands, entries without a removal replace the quantity alone. -/
theorem outcome_some {ls : List Level} (h : ∀ l ∈ ls, l.isRemoval = false) (first : Level) :
    outcome (some first) ls = some ⟨first.price, (ls.getLast?.getD first).quantity⟩ := by
  induction ls using List.reverseRecOn with
  | nil => rfl
  | append_singleton ls l ih =>
    rw [List.forall_mem_append] at h
    rw [outcome_concat, ih h.1, Level.over_eq_some (h.2 l (by simp))]
    simp

/-- Entries without a removal leave the last quantity under the first spelling. -/
theorem outcome_none {ls : List Level} (h : ∀ l ∈ ls, l.isRemoval = false) :
    outcome none ls =
      ls.getLast?.bind fun last => ls.head?.map fun first => ⟨first.price, last.quantity⟩ := by
  cases ls with
  | nil => rfl
  | cons first ls =>
    rw [List.forall_mem_cons] at h
    have hfirst : outcome none (first :: ls) = outcome (some first) ls := by
      rw [outcome, List.foldl_cons, Level.over_eq_some h.1]
      rfl
    rw [hfirst, outcome_some h.2, List.getLast?_cons]
    rfl

/-- A removal makes what stood before it of no account. -/
theorem outcome_of_removal (held : Option Level) {ls : List Level}
    (h : ls.any (·.isRemoval) = true) :
    outcome held ls = outcome none (ls.rtakeWhile (!·.isRemoval)) := by
  induction ls using List.reverseRecOn with
  | nil => simp at h
  | append_singleton ls l ih =>
    rw [outcome_concat, List.rtakeWhile_concat]
    cases hl : l.isRemoval with
    | true => simp [Level.over, hl, outcome]
    | false =>
      have hls : ls.any (·.isRemoval) = true := by simpa [hl] using h
      rw [ih hls]
      simp [outcome_concat]

theorem getLast?_rtakeWhile {α : Type} (p : α → Bool) (ls : List α) :
    (ls.rtakeWhile p).getLast? = ls.getLast?.filter p := by
  rcases ls.eq_nil_or_concat' with rfl | ⟨front, x, rfl⟩
  · rfl
  · by_cases hx : p x = true <;> simp [hx, Option.filter]

/-- What entries `w` leave over entries `u` without a removal: the last quantity, unless it is
zero, under the spelling that is kept.

**Proof sketch.** If `w` has a removal, `u` is of no account, and neither is what `w` has before
its last removal; the entries behind it leave their last quantity under their first spelling. If
it has none, `u` and `w` are one list of entries without a removal, and leave that list's. -/
theorem outcome_eq {u : List Level} (hu : ∀ l ∈ u, l.isRemoval = false) (w : List Level) :
    outcome (outcome none u) w =
      ((quantitySource u w).filter (!·.isRemoval)).bind fun last =>
        (spellingSource u w).map fun first => ⟨first.price, last.quantity⟩ := by
  cases hw : w.any (·.isRemoval) with
  | true =>
    have hne : w.getLast?.isSome = true := by
      rw [List.getLast?_isSome]
      rintro rfl
      simp at hw
    have hstanding : ∀ l ∈ w.rtakeWhile (!·.isRemoval), l.isRemoval = false := fun l hl => by
      simpa using List.mem_rtakeWhile_imp hl
    rw [outcome_of_removal _ hw, outcome_none hstanding, getLast?_rtakeWhile, quantitySource,
      Option.or_of_isSome hne, spellingSource, if_pos hw]
  | false =>
    have hstanding : ∀ l ∈ u ++ w, l.isRemoval = false :=
      List.forall_mem_append.2 ⟨hu, by simpa using hw⟩
    have hlast : (quantitySource u w).filter (!·.isRemoval) = quantitySource u w := by
      cases hq : quantitySource u w with
      | none => rfl
      | some last =>
        have hmem : last ∈ u ++ w := List.mem_of_getLast? (List.getLast?_append.trans hq)
        simp [hstanding last hmem]
    rw [← outcome_append, outcome_none hstanding, hlast, quantitySource, List.getLast?_append,
      spellingSource, if_neg (by simp [hw]), List.head?_append]

/-! ### Merges -/

/-- What a merge leaves at a price: the last quantity, unless it is zero, under the spelling
that is kept. -/
theorem levelAt_merge (side : Side) (previous incoming : List Level) (q : ℚ) :
    levelAt (merge side previous incoming) q =
      ((quantitySource (standingAt previous q) (levelsAt incoming q)).filter (!·.isRemoval)).bind
        fun last => (spellingSource (standingAt previous q) (levelsAt incoming q)).map
          fun first => ⟨first.price, last.quantity⟩ := by
  rw [merge, levelAt_foldl_change (isSide_foldl_change (isSide_nil side) _),
    levelAt_foldl_change (isSide_nil side), levelsAt_filter_standing, levelAt_nil,
    outcome_eq isRemoval_of_mem_standingAt]

/-- In an ordered list, what is found at a price is the one level of that price. -/
theorem levelAt_eq_some_iff {side : Side} {levels : List Level} (h : Ordered side levels) (q : ℚ)
    (l : Level) : levelAt levels q = some l ↔ l ∈ levels ∧ l.price.value = q := by
  induction levels with
  | nil => simp
  | cons h₀ hs ih =>
    obtain ⟨hlt, hos⟩ := ordered_cons.1 h
    rw [levelAt_cons, List.mem_cons]
    split
    · next hq =>
      have hlater : l ∈ hs → l.price.value ≠ q := fun hl he =>
        (hlt l hl).ne ((side.rank_eq_iff _ _).2 (hq.trans he.symm))
      constructor
      · rintro ⟨⟩
        exact ⟨Or.inl rfl, hq⟩
      · rintro ⟨rfl | hl, he⟩
        · rfl
        · exact absurd he (hlater hl)
    · next hq =>
      rw [ih hos]
      constructor
      · exact fun ⟨hl, he⟩ => ⟨Or.inr hl, he⟩
      · rintro ⟨rfl | hl, he⟩
        · exact absurd he hq
        · exact ⟨hl, he⟩

/-- A side is told by what stands at each price. -/
theorem eq_of_levelAt_eq {side : Side} {as bs : List Level} (ha : Ordered side as)
    (hb : Ordered side bs) (h : ∀ q, levelAt as q = levelAt bs q) : as = bs := by
  have hirrefl : Std.Irrefl fun a b : Level => side.compare a.price b.price = .lt :=
    ⟨fun a hlt => lt_irrefl _ ((side.compare_eq_lt_iff _ _).1 hlt)⟩
  have hantisymm : Std.Antisymm fun a b : Level => side.compare a.price b.price = .lt :=
    ⟨fun a b hab hba => absurd ((side.compare_eq_lt_iff _ _).1 hab)
      ((side.compare_eq_lt_iff _ _).1 hba).asymm⟩
  refine List.Pairwise.eq_of_mem_iff ha hb fun l => ?_
  have hl := h l.price.value
  constructor
  · intro hmem
    exact ((levelAt_eq_some_iff hb _ l).1 (hl ▸ (levelAt_eq_some_iff ha _ l).2 ⟨hmem, rfl⟩)).1
  · intro hmem
    exact ((levelAt_eq_some_iff ha _ l).1 (hl ▸ (levelAt_eq_some_iff hb _ l).2 ⟨hmem, rfl⟩)).1

theorem exists_spellingSource {u w : List Level} {last : Level}
    (h : quantitySource u w = some last) (hlast : last.isRemoval = false) :
    ∃ first, spellingSource u w = some first := by
  rw [← Option.isSome_iff_exists, spellingSource]
  split
  · next hw =>
    have hne : w.getLast?.isSome = true := by
      rw [List.getLast?_isSome]
      rintro rfl
      simp at hw
    have hend : (w.rtakeWhile (!·.isRemoval)).getLast? = some last := by
      rw [quantitySource, Option.or_of_isSome hne] at h
      simp [getLast?_rtakeWhile, h, hlast]
    rw [List.isSome_head?, ← List.getLast?_isSome, hend]
    rfl
  · rw [quantitySource, ← List.getLast?_append] at h
    rw [← List.head?_append, List.isSome_head?, ← List.getLast?_isSome, h]
    rfl

/-- The last entry stands iff it is a change that is no removal, or there is no change and
something was held. -/
theorem exists_quantitySource_iff {u : List Level} (hu : ∀ l ∈ u, l.isRemoval = false)
    (w : List Level) :
    (∃ last, quantitySource u w = some last ∧ last.isRemoval = false) ↔
      (∃ last, w.getLast? = some last ∧ last.isRemoval = false) ∨ (w = [] ∧ u ≠ []) := by
  rcases w.eq_nil_or_concat' with rfl | ⟨front, x, rfl⟩
  · rcases u.eq_nil_or_concat' with rfl | ⟨front, x, rfl⟩
    · simp [quantitySource]
    · simpa [quantitySource] using hu x (by simp)
  · simp [quantitySource]

theorem mem_merge_iff (side : Side) (previous incoming : List Level) (q : ℚ) (l : Level) :
    l ∈ merge side previous incoming ∧ l.price.value = q ↔
      ∃ last first, quantitySource (standingAt previous q) (levelsAt incoming q) = some last ∧
        last.isRemoval = false ∧
        spellingSource (standingAt previous q) (levelsAt incoming q) = some first ∧
        ⟨first.price, last.quantity⟩ = l := by
  rw [← levelAt_eq_some_iff (isSide_merge side previous incoming).ordered, levelAt_merge]
  simp [Option.bind_eq_some_iff, Option.filter_eq_some_iff, and_assoc]

/-- **A merge, price by price.** Any two lists of levels are merged. At a price let `u` be the
entries of the first list that are no removals, and `w` all entries of the second one, in order.
The result is a side. It has a level at the price iff the last of `w` is no removal, or `w` is
empty and `u` is not. Its quantity is that of the last of `w`, or else of the last of `u`. Its
price has the spelling of the first of `w` behind the last removal in `w`, if there is one, and
otherwise of the first of `u`, or else of the first of `w`. So lists with the same entries at
each price have the same merge, to the letter.

**Proof sketch.** What changes leave at a price is what its own changes leave there
(`levelAt_merge`), a fold over the entries `u` and `w` alone. Without a removal the fold
replaces the quantity and keeps the first spelling; a removal starts it anew. A side is told by
what stands at each price. -/
theorem merge_price_by_price (side : Side) (previous incoming : List Level) :
    IsSide side (merge side previous incoming) ∧
      (∀ q, let u := standingAt previous q
        let w := levelsAt incoming q
        ((∃ l ∈ merge side previous incoming, l.price.value = q) ↔
            (∃ last, w.getLast? = some last ∧ last.isRemoval = false) ∨
              (w = [] ∧ u ≠ [])) ∧
          ∀ l ∈ merge side previous incoming, l.price.value = q →
            (quantitySource u w).map (·.quantity) = some l.quantity ∧
              (spellingSource u w).map (·.price) = some l.price) ∧
      ∀ previous' incoming', (∀ q, standingAt previous' q = standingAt previous q) →
        (∀ q, levelsAt incoming' q = levelsAt incoming q) →
        merge side previous' incoming' = merge side previous incoming := by
  have hside := isSide_merge side previous incoming
  refine ⟨hside, fun q => ⟨?_, ?_⟩, fun previous' incoming' hp hi => ?_⟩
  · rw [← exists_quantitySource_iff isRemoval_of_mem_standingAt]
    constructor
    · rintro ⟨l, hl, hq⟩
      obtain ⟨last, -, hlast, hstands, -⟩ := (mem_merge_iff ..).1 ⟨hl, hq⟩
      exact ⟨last, hlast, hstands⟩
    · rintro ⟨last, hlast, hstands⟩
      obtain ⟨first, hfirst⟩ := exists_spellingSource hlast hstands
      exact ⟨_, (mem_merge_iff ..).2 ⟨last, first, hlast, hstands, hfirst, rfl⟩⟩
  · intro l hl hq
    obtain ⟨last, first, hlast, -, hfirst, rfl⟩ := (mem_merge_iff ..).1 ⟨hl, hq⟩
    simp [hlast, hfirst]
  · refine eq_of_levelAt_eq (isSide_merge side _ _).ordered hside.ordered fun q => ?_
    rw [levelAt_merge, levelAt_merge, hp, hi]

/-- A level with a price of some scale and a whole quantity. -/
private def spelt (coefficient : Fin 100000) (scale : Fin 29) (quantity : Fin 100) : Level :=
  ⟨⟨coefficient, scale, by have := coefficient.isLt; omega, by have := scale.isLt; omega⟩,
    .ofInt quantity (by have := quantity.isLt; omega)⟩

/-- The bid 100 goes and comes back as `100.00`, which is how it is spelled from then on. It
does not matter in which order the bids 99 and 100 are held, whether 98 is held with nothing
left, and whether 97 comes before 100 goes or behind that. -/
theorem merge_price_by_price_reordered :
    (∀ q, standingAt [spelt 980 1 0, spelt 99 0 5, spelt 100 0 2] q =
        standingAt [spelt 100 0 2, spelt 99 0 5] q) ∧
      (∀ q, levelsAt [spelt 970 1 4, spelt 1000 1 0, spelt 10000 2 3, spelt 100 0 7] q =
        levelsAt [spelt 1000 1 0, spelt 970 1 4, spelt 10000 2 3, spelt 100 0 7] q) ∧
      merge .bid [spelt 980 1 0, spelt 99 0 5, spelt 100 0 2]
          [spelt 970 1 4, spelt 1000 1 0, spelt 10000 2 3, spelt 100 0 7] =
        merge .bid [spelt 100 0 2, spelt 99 0 5]
          [spelt 1000 1 0, spelt 970 1 4, spelt 10000 2 3, spelt 100 0 7] ∧
      merge .bid [spelt 100 0 2, spelt 99 0 5]
          [spelt 1000 1 0, spelt 970 1 4, spelt 10000 2 3, spelt 100 0 7] =
        [spelt 10000 2 7, spelt 99 0 5, spelt 970 1 4] := by
  have hprevious (q : ℚ) : standingAt [spelt 980 1 0, spelt 99 0 5, spelt 100 0 2] q =
      standingAt [spelt 100 0 2, spelt 99 0 5] q := by
    rw [← levelsAt_filter_standing, ← levelsAt_filter_standing]
    exact levelsAt_swap (by decide +kernel) [] q
  have hincoming (q : ℚ) := levelsAt_swap
    (show (spelt 970 1 4).price.value ≠ (spelt 1000 1 0).price.value by decide +kernel)
    [spelt 10000 2 3, spelt 100 0 7] q
  exact ⟨hprevious, hincoming,
    (merge_price_by_price .bid _ _).2.2 _ _ hprevious hincoming, by decide +kernel⟩

end BookFeed.Book
