import Mathlib.Data.List.Induction
import BookFeed.Book.Merge
import BookFeed.Proofs.Decimal.Order

set_option autoImplicit false

/-!
# What stands at a price

A side of a book is looked at price by price. A price is a rational number here, so all
spellings of it are one. One change decides what stands at its own price and leaves the other
prices alone; a batch of changes therefore leaves at each price what its last change of that
price says.

## Main definitions

* `BookFeed.Book.Ordered`, `BookFeed.Book.IsSide` — levels in order, levels that form a side.
* `BookFeed.Book.levelAt`, `BookFeed.Book.quantityAt` — what stands at a price.
* `BookFeed.Book.lastAt` — the last change of a price in a batch.
* `BookFeed.Book.Level.Same` — one price and one quantity, however they are spelled.

## Main results

* `BookFeed.Book.levelAt_change` — one change, price by price.
* `BookFeed.Book.isSide_merge` — a merge of any two lists forms a side.
* `BookFeed.Book.merge_eq_foldl` — merging into a side is doing the changes one after the
  other.
* `BookFeed.Book.quantityAt_foldl_change` — at each price the last change counts.
* `BookFeed.Book.same_of_quantityAt_eq` — sides that agree at each price are the same.
-/

namespace BookFeed.Book

/-! ### The order of a side -/

namespace Side

/-- The place of a price on a side: better prices come first. -/
def rank : Side → Decimal → ℚ
  | .bid, d => -d.value
  | .ask, d => d.value

/-- A better price has the smaller rank. -/
theorem compare_eq_lt_iff (side : Side) (a b : Decimal) :
    side.compare a b = .lt ↔ side.rank a < side.rank b := by
  cases side with
  | bid => simp [compare, rank, Decimal.compare_eq_lt_iff]
  | ask => simp [compare, rank, Decimal.compare_eq_lt_iff]

/-- A worse price has the greater rank. -/
theorem compare_eq_gt_iff (side : Side) (a b : Decimal) :
    side.compare a b = .gt ↔ side.rank b < side.rank a := by
  cases side with
  | bid => simp [compare, rank, Decimal.compare_eq_gt_iff]
  | ask => simp [compare, rank, Decimal.compare_eq_gt_iff]

/-- Prices compare as equal iff they are one number. -/
theorem compare_eq_eq_iff (side : Side) (a b : Decimal) :
    side.compare a b = .eq ↔ a.value = b.value := by
  cases side with
  | bid => simpa [compare, Decimal.compare_eq_eq_iff] using eq_comm
  | ask => simp [compare, Decimal.compare_eq_eq_iff]

/-- The rank tells all prices apart. -/
theorem rank_eq_iff (side : Side) (a b : Decimal) :
    side.rank a = side.rank b ↔ a.value = b.value := by
  cases side <;> simp [rank]

end Side

/-- Levels in strict order, better prices first. -/
def Ordered (side : Side) (levels : List Level) : Prop :=
  levels.Pairwise fun a b => side.compare a.price b.price = .lt

/-- Levels that form a side of a book: in strict order, and something is left at each price. -/
structure IsSide (side : Side) (levels : List Level) : Prop where
  /-- Better prices come first, and no price comes twice. -/
  ordered : Ordered side levels
  /-- Something is left at each price. -/
  standing : ∀ l ∈ levels, l.isRemoval = false

instance (side : Side) (levels : List Level) : Decidable (Ordered side levels) :=
  inferInstanceAs (Decidable (List.Pairwise _ levels))

instance (side : Side) (levels : List Level) : Decidable (IsSide side levels) :=
  decidable_of_iff (Ordered side levels ∧ ∀ l ∈ levels, l.isRemoval = false)
    ⟨fun h => ⟨h.1, h.2⟩, fun h => ⟨h.1, h.2⟩⟩

/-- No levels form a side. -/
theorem isSide_nil (side : Side) : IsSide side [] := ⟨List.Pairwise.nil, by simp⟩

/-- The order of a list with a first level, in terms of ranks. -/
theorem ordered_cons {side : Side} {h : Level} {hs : List Level} :
    Ordered side (h :: hs) ↔
      (∀ x ∈ hs, side.rank h.price < side.rank x.price) ∧ Ordered side hs := by
  simp [Ordered, List.pairwise_cons, Side.compare_eq_lt_iff]

/-! ### Looking at a price -/

/-- The level at the price `q`, if there is one. -/
def levelAt (levels : List Level) (q : ℚ) : Option Level :=
  levels.find? fun l => decide (l.price.value = q)

/-- The quantity at the price `q`, if there is one. -/
def quantityAt (levels : List Level) (q : ℚ) : Option ℚ :=
  (levelAt levels q).map (·.quantity.value)

/-- There is nothing in an empty list. -/
@[simp] theorem levelAt_nil (q : ℚ) : levelAt [] q = none := rfl

/-- The first level is found at its price and hides nothing else. -/
theorem levelAt_cons (h : Level) (hs : List Level) (q : ℚ) :
    levelAt (h :: hs) q = if h.price.value = q then some h else levelAt hs q := by
  simp only [levelAt, List.find?_cons]
  by_cases hq : h.price.value = q <;> simp [hq]

/-- Where no level has the price, nothing is found. -/
theorem levelAt_eq_none {levels : List Level} {q : ℚ}
    (h : ∀ l ∈ levels, l.price.value ≠ q) :
    levelAt levels q = none := by
  simpa [levelAt] using h

/-- Nothing stands at the price of the first level further down. -/
theorem levelAt_tail_eq_none {side : Side} {h : Level} {hs : List Level}
    (ho : Ordered side (h :: hs)) : levelAt hs h.price.value = none := by
  refine levelAt_eq_none fun x hx he => ?_
  have hlt := (ordered_cons.1 ho).1 x hx
  exact hlt.ne ((side.rank_eq_iff _ _).2 he.symm)

/-! ### One change -/

/-- What a change leaves at its price, where `held` is what was there. -/
def Level.over (l : Level) (held : Option Level) : Option Level :=
  if l.isRemoval then none
  else match held with
    | some h => some { h with quantity := l.quantity }
    | none => some l

/-- Placing a level brings no price that was not there, but its own. -/
theorem price_of_mem_place {side : Side} {l x : Level} {levels : List Level}
    (hx : x ∈ place side l levels) :
    x.price = l.price ∨ ∃ h ∈ levels, x.price = h.price := by
  induction levels with
  | nil =>
    obtain rfl : x = l := by simpa [place] using hx
    exact Or.inl rfl
  | cons h hs ih =>
    rw [place] at hx
    split at hx
    · rcases List.mem_cons.1 hx with rfl | hx
      · exact Or.inl rfl
      · exact Or.inr ⟨x, hx, rfl⟩
    · rcases List.mem_cons.1 hx with rfl | hx
      · exact Or.inr ⟨h, by simp, rfl⟩
      · exact Or.inr ⟨x, by simp [hx], rfl⟩
    · rcases List.mem_cons.1 hx with rfl | hx
      · exact Or.inr ⟨x, by simp, rfl⟩
      · rcases ih hx with he | ⟨y, hy, he⟩
        · exact Or.inl he
        · exact Or.inr ⟨y, by simp [hy], he⟩

/-- Placing a level keeps the order. -/
theorem ordered_place {side : Side} {levels : List Level} (ho : Ordered side levels) (l : Level) :
    Ordered side (place side l levels) := by
  induction levels with
  | nil => simp [place, Ordered]
  | cons h hs ih =>
    obtain ⟨hlt, hos⟩ := ordered_cons.1 ho
    rw [place]
    split
    · next hc =>
      have hl := (side.compare_eq_lt_iff _ _).1 hc
      refine ordered_cons.2 ⟨fun x hx => ?_, ho⟩
      rcases List.mem_cons.1 hx with rfl | hx
      · exact hl
      · exact hl.trans (hlt x hx)
    · exact ordered_cons.2 ⟨hlt, hos⟩
    · next hc =>
      refine ordered_cons.2 ⟨fun x hx => ?_, ih hos⟩
      rcases price_of_mem_place hx with he | ⟨y, hy, he⟩
      · rw [he]
        exact (side.compare_eq_gt_iff _ _).1 hc
      · rw [he]
        exact hlt y hy

/-- Placing a level decides what stands at its price, and nothing else. -/
theorem levelAt_place {side : Side} {levels : List Level} (ho : Ordered side levels) {l : Level}
    (hl : l.isRemoval = false) (q : ℚ) :
    levelAt (place side l levels) q =
      if l.price.value = q then l.over (levelAt levels q) else levelAt levels q := by
  induction levels with
  | nil => simp [place, levelAt_cons, Level.over, hl]
  | cons h hs ih =>
    have hos := (ordered_cons.1 ho).2
    rw [place]
    split
    · next hc =>
      -- the new level is better than all others, so none of them has its price
      have hlt := (side.compare_eq_lt_iff _ _).1 hc
      have hnone : levelAt (h :: hs) l.price.value = none :=
        levelAt_tail_eq_none (ordered_cons.2 ⟨fun x hx => by
          rcases List.mem_cons.1 hx with rfl | hx
          · exact hlt
          · exact hlt.trans ((ordered_cons.1 ho).1 x hx), ho⟩)
      rw [levelAt_cons l]
      split
      · next hq => simp [← hq, hnone, Level.over, hl]
      · rfl
    · next hc =>
      have he := (side.compare_eq_eq_iff _ _).1 hc
      simp only [levelAt_cons, he]
      split <;> simp [Level.over, hl]
    · next hc =>
      have hne : h.price.value ≠ l.price.value := fun he => by
        rw [(side.compare_eq_eq_iff _ _).2 he.symm] at hc
        exact absurd hc (by decide)
      simp only [levelAt_cons, ih hos]
      by_cases hq : h.price.value = q
      · simp [hq, show ¬ l.price.value = q from fun e => hne (hq.trans e.symm)]
      · simp [hq]

/-- Clearing a price empties it and touches nothing else. -/
theorem levelAt_clear (p : Decimal) (levels : List Level) (q : ℚ) :
    levelAt (clear p levels) q = if p.value = q then none else levelAt levels q := by
  induction levels with
  | nil => simp [clear]
  | cons h hs ih =>
    simp only [clear, List.filter_cons] at ih ⊢
    by_cases hp : h.price.value = p.value
    · simp only [(Decimal.same_iff _ _).2 hp, Bool.not_true, Bool.false_eq_true, ↓reduceIte, ih,
        levelAt_cons, hp]
      split <;> rfl
    · have hs' : h.price.same p = false := Bool.eq_false_iff.2 (mt (Decimal.same_iff _ _).1 hp)
      simp only [hs', Bool.not_false, ↓reduceIte, levelAt_cons, ih]
      by_cases hq : h.price.value = q
      · simp [hq, show ¬ p.value = q from fun e => hp (hq.trans e.symm)]
      · simp [hq]

/-- One change decides what stands at its price, and nothing else. -/
theorem levelAt_change {side : Side} {levels : List Level} (ho : Ordered side levels) (l : Level)
    (q : ℚ) :
    levelAt (change side levels l) q =
      if l.price.value = q then l.over (levelAt levels q) else levelAt levels q := by
  unfold change
  split
  · next hl => simp [levelAt_clear, Level.over, hl]
  · next hl => exact levelAt_place ho (by simpa using hl) q

/-- A change keeps the order. -/
theorem ordered_change {side : Side} {levels : List Level} (ho : Ordered side levels) (l : Level) :
    Ordered side (change side levels l) := by
  unfold change
  split
  · exact List.Pairwise.filter _ ho
  · exact ordered_place ho l

/-- What is placed stands there. -/
theorem standing_place {side : Side} {l : Level} (hl : l.isRemoval = false) {levels : List Level}
    (h : ∀ x ∈ levels, x.isRemoval = false) :
    ∀ x ∈ place side l levels, x.isRemoval = false := by
  induction levels with
  | nil => simpa [place] using hl
  | cons h₀ hs ih =>
    rw [List.forall_mem_cons] at h
    rw [place]
    split
    · exact List.forall_mem_cons.2 ⟨hl, List.forall_mem_cons.2 h⟩
    · exact List.forall_mem_cons.2 ⟨hl, h.2⟩
    · exact List.forall_mem_cons.2 ⟨h.1, ih h.2⟩

/-- A change of a side leaves a side. -/
theorem IsSide.change {side : Side} {levels : List Level} (h : IsSide side levels) (l : Level) :
    IsSide side (change side levels l) := by
  refine ⟨ordered_change h.ordered l, ?_⟩
  unfold Book.change
  split
  · exact fun x hx => h.standing x (List.mem_filter.1 hx).1
  · next hl => exact standing_place (by simpa using hl) h.standing

/-! ### Batches of changes -/

/-- Doing changes keeps a side a side. -/
theorem isSide_foldl_change {side : Side} {levels : List Level} (h : IsSide side levels)
    (ls : List Level) : IsSide side (ls.foldl (change side) levels) := by
  induction ls generalizing levels with
  | nil => exact h
  | cons l ls ih => exact ih (h.change l)

/-- A merge of any two lists of levels forms a side. -/
theorem isSide_merge (side : Side) (previous incoming : List Level) :
    IsSide side (merge side previous incoming) :=
  isSide_foldl_change (isSide_foldl_change (isSide_nil side) _) _

/-- A level that is worse than all others is placed behind them. -/
theorem place_eq_append {side : Side} {l : Level} {levels : List Level}
    (h : ∀ x ∈ levels, side.rank x.price < side.rank l.price) :
    place side l levels = levels ++ [l] := by
  induction levels with
  | nil => rfl
  | cons h₀ hs ih =>
    rw [List.forall_mem_cons] at h
    rw [place, (side.compare_eq_gt_iff _ _).2 h.1, ih h.2, List.cons_append]

/-- Placing the levels of a side one after the other builds that side. -/
theorem foldl_change_append {side : Side} {front back : List Level}
    (h : IsSide side (front ++ back)) : back.foldl (change side) front = front ++ back := by
  induction back generalizing front with
  | nil => simp
  | cons l ls ih =>
    have hl : l.isRemoval = false := h.standing l (by simp)
    have hlt : ∀ x ∈ front, side.rank x.price < side.rank l.price := fun x hx =>
      (side.compare_eq_lt_iff _ _).1 ((List.pairwise_append.1 h.ordered).2.2 x hx l (by simp))
    have hstep : change side front l = front ++ [l] := by simp [change, hl, place_eq_append hlt]
    rw [List.foldl_cons, hstep, ih (by simpa using h)]
    simp

/-- So does placing all of them on an empty side. -/
theorem foldl_change_nil {side : Side} {ls : List Level} (h : IsSide side ls) :
    ls.foldl (change side) [] = ls := by
  have hall : IsSide side ([] ++ ls) := h
  exact foldl_change_append hall

/-- Merging into a side is doing the changes one after the other. -/
theorem merge_eq_foldl {side : Side} {previous : List Level} (h : IsSide side previous)
    (incoming : List Level) :
    merge side previous incoming = incoming.foldl (change side) previous := by
  have hkeep : previous.filter (!·.isRemoval) = previous :=
    List.filter_eq_self.2 fun l hl => by simp [h.standing l hl]
  rw [merge, hkeep, foldl_change_nil h]

/-! ### The last change counts -/

/-- The last change of the price `q` in a batch, if there is one. -/
def lastAt (ls : List Level) (q : ℚ) : Option Level :=
  (ls.filter fun l => decide (l.price.value = q)).getLast?

/-- What a change leaves of the quantity at its price. -/
def Level.left (l : Level) : Option ℚ := if l.isRemoval then none else some l.quantity.value

/-- The last change of two batches is that of the second one, or else that of the first one. -/
theorem lastAt_append (ls ls' : List Level) (q : ℚ) :
    lastAt (ls ++ ls') q = (lastAt ls' q).or (lastAt ls q) := by
  simp [lastAt, List.getLast?_append]

/-- A single change is the last one of its price. -/
theorem lastAt_singleton (l : Level) (q : ℚ) :
    lastAt [l] q = if l.price.value = q then some l else none := by
  by_cases hq : l.price.value = q <;> simp [lastAt, hq]

/-- There is a last change of a price unless no change is of it. -/
theorem lastAt_eq_none_iff (ls : List Level) (q : ℚ) :
    lastAt ls q = none ↔ ∀ l ∈ ls, l.price.value ≠ q := by
  simp [lastAt]

/-- One change decides the quantity at its price, and no other. -/
theorem quantityAt_change {side : Side} {levels : List Level} (ho : Ordered side levels) (l : Level)
    (q : ℚ) :
    quantityAt (change side levels l) q =
      if l.price.value = q then l.left else quantityAt levels q := by
  unfold quantityAt
  rw [levelAt_change ho]
  split
  · unfold Level.over Level.left
    split
    · rfl
    · cases levelAt levels q <;> rfl
  · rfl

/-- At each price the last change counts; where there is none, what stood there stays.

**Proof sketch.** Induction on the batch, from its end: the last change either is of this price,
and then it decides alone, or it leaves this price as the changes before it did. -/
theorem quantityAt_foldl_change {side : Side} {levels : List Level} (h : IsSide side levels)
    (ls : List Level) (q : ℚ) :
    quantityAt (ls.foldl (change side) levels) q =
      (lastAt ls q).elim (quantityAt levels q) Level.left := by
  induction ls using List.reverseRecOn with
  | nil => rfl
  | append_singleton ls l ih =>
    rw [List.foldl_append, List.foldl_cons, List.foldl_nil,
      quantityAt_change (isSide_foldl_change h ls).ordered, lastAt_append, lastAt_singleton]
    split
    · rfl
    · exact ih

/-! ### Sameness -/

/-- One price and one quantity, however they are spelled. -/
def Level.Same (a b : Level) : Prop :=
  a.price.same b.price = true ∧ a.quantity.same b.quantity = true

instance (a b : Level) : Decidable (a.Same b) := inferInstanceAs (Decidable (_ ∧ _))

/-- Two levels are the same iff their numbers are. -/
theorem Level.same_iff (a b : Level) :
    a.Same b ↔ a.price.value = b.price.value ∧ a.quantity.value = b.quantity.value := by
  simp [Level.Same]

/-- The quantities in a list with a first level. -/
theorem quantityAt_cons (h : Level) (hs : List Level) (q : ℚ) :
    quantityAt (h :: hs) q =
      if h.price.value = q then some h.quantity.value else quantityAt hs q := by
  unfold quantityAt
  rw [levelAt_cons]
  split <;> rfl

/-- Lists that are the same level by level agree at each price. -/
theorem quantityAt_congr {as bs : List Level} (h : List.Forall₂ Level.Same as bs) (q : ℚ) :
    quantityAt as q = quantityAt bs q := by
  induction h with
  | nil => rfl
  | cons hab _ ih =>
    obtain ⟨hp, hq⟩ := (Level.same_iff _ _).1 hab
    rw [quantityAt_cons, quantityAt_cons, hp, hq, ih]

/-- Of two sides that agree at each price, the second one does not start later. -/
private theorem rank_head_le {side : Side} {a b : Level} {as bs : List Level}
    (hb : Ordered side (b :: bs)) (h : quantityAt (a :: as) a.price.value =
      quantityAt (b :: bs) a.price.value) : side.rank b.price ≤ side.rank a.price := by
  by_contra hlt
  have hnone : levelAt (b :: bs) a.price.value = none := by
    refine levelAt_eq_none fun x hx he => ?_
    have hx' : side.rank a.price < side.rank x.price := by
      rcases List.mem_cons.1 hx with rfl | hx
      · exact not_le.1 hlt
      · exact (not_le.1 hlt).trans ((ordered_cons.1 hb).1 x hx)
    exact hx'.ne' ((side.rank_eq_iff _ _).2 he)
  simp [quantityAt, hnone, levelAt_cons] at h

/-- Sides that agree at each price are the same, level by level.

**Proof sketch.** Induction on the first side. The best level of either side is found in the
other one, so neither starts later, and both start with one price and one quantity. The rests
agree at each price: at the best price both hold nothing more, and at the others they hold what
the sides hold. -/
theorem same_of_quantityAt_eq {side : Side} {as bs : List Level} (ha : Ordered side as)
    (hb : Ordered side bs) (h : ∀ q, quantityAt as q = quantityAt bs q) :
    List.Forall₂ Level.Same as bs := by
  induction as generalizing bs with
  | nil =>
    cases bs with
    | nil => exact List.Forall₂.nil
    | cons b bs => simpa [quantityAt, levelAt_cons] using h b.price.value
  | cons a as ih =>
    cases bs with
    | nil => simpa [quantityAt, levelAt_cons] using h a.price.value
    | cons b bs =>
      have hrank : side.rank a.price = side.rank b.price :=
        le_antisymm (rank_head_le ha (h b.price.value).symm) (rank_head_le hb (h a.price.value))
      have hp : a.price.value = b.price.value := (side.rank_eq_iff _ _).1 hrank
      have hq : a.quantity.value = b.quantity.value := by
        simpa [quantityAt_cons, hp] using h b.price.value
      refine List.Forall₂.cons ((Level.same_iff a b).2 ⟨hp, hq⟩)
        (ih (ordered_cons.1 ha).2 (ordered_cons.1 hb).2 fun q => ?_)
      by_cases he : b.price.value = q
      · have ha' : levelAt as q = none := by rw [← he, ← hp]; exact levelAt_tail_eq_none ha
        have hb' : levelAt bs q = none := by rw [← he]; exact levelAt_tail_eq_none hb
        simp [quantityAt, ha', hb']
      · simpa [quantityAt_cons, hp, he] using h q

end BookFeed.Book
