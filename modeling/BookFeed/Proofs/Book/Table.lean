import BookFeed.Proofs.Book.Spelling

set_option autoImplicit false

/-!
# One table for both sides

A side of a book can be kept in a table by price, the same for bids and asks: its entries ascend
by number, and prices that are one number share an entry. Levels are entered and removed there
one after the other, and at the end the table is read out, from its lowest price upwards for
asks and in reverse for bids. This is a second account of a merge, in which the order of a side
is looked at only once, at the end. It agrees with the first one, which puts each level in its
place in the order of the side: step by step both hold the same level at each price, and levels
in order are told by that.

## Main definitions

* `BookFeed.Book.Table` — levels by price.
* `BookFeed.Book.Table.enter`, `BookFeed.Book.Table.change` — one change of a table.
* `BookFeed.Book.Table.ofLists` — the table of a merge.
* `BookFeed.Book.Table.levels`, `BookFeed.Book.Side.arrange` — a table read out for a side.
* `BookFeed.Book.Table.Holds` — a table has the levels of a list.

## Main results

* `BookFeed.Book.Table.Holds.change` — a change keeps table and list together.
* `BookFeed.Book.Table.Holds.arrange_levels` — a table read out for a side is the list in
  order.
* `BookFeed.Book.merge_eq_arrange` — a merge is a table read out.
* `BookFeed.Book.merge_bid_eq_reverse` — bids are merged like asks, and reversed.
-/

namespace BookFeed

/-! ### Decimals as keys -/

namespace Decimal

/-- Decimals that are compared the other way give the opposite answer. -/
instance : Std.OrientedCmp compare where
  eq_swap {a b} := by
    cases h : b.compare a with
    | lt => exact (compare_eq_gt_iff a b).2 ((compare_eq_lt_iff b a).1 h)
    | eq => exact (compare_eq_eq_iff a b).2 ((compare_eq_eq_iff b a).1 h).symm
    | gt => exact (compare_eq_lt_iff a b).2 ((compare_eq_gt_iff b a).1 h)

/-- A decimal is at most another one as a number. -/
theorem isLE_compare_iff (a b : Decimal) : (a.compare b).isLE = true ↔ a.value ≤ b.value := by
  rw [Ordering.isLE_iff_ne_gt, ← not_lt, ← compare_eq_gt_iff]

/-- Comparison is an order of keys. -/
instance : Std.TransCmp compare where
  isLE_trans {a b c} hab hbc := by
    rw [isLE_compare_iff] at hab hbc ⊢
    exact hab.trans hbc

end Decimal

namespace Book

/-! ### Tables -/

/-- Levels by price, ascending; prices that are one number share an entry. -/
abbrev Table := Std.TreeMap Decimal Level Decimal.compare

namespace Table

/-- Enter a level. Where the price is held already, only the quantity is replaced. -/
def enter (t : Table) (l : Level) : Table :=
  t.alter l.price fun
    | some held => some { held with quantity := l.quantity }
    | none => some l

/-- Do one change. -/
def change (t : Table) (l : Level) : Table :=
  if l.isRemoval then t.erase l.price else t.enter l

/-- The table of a merge: the levels of the first list that stand are entered, and the changes
of the second one are done. -/
def ofLists (previous incoming : List Level) : Table :=
  incoming.foldl change ((previous.filter (!·.isRemoval)).foldl enter ∅)

/-- The levels of a table, from the lowest price upwards. -/
def levels (t : Table) : List Level := t.toList.map (·.2)

end Table

/-- Levels from the lowest price upwards, in the order of a side. -/
def Side.arrange : Side → List Level → List Level
  | .bid, levels => levels.reverse
  | .ask, levels => levels

namespace Table

/-! ### Table and list -/

/-- At each price, a table has the level that a list has there. -/
def Holds (t : Table) (levels : List Level) : Prop :=
  ∀ p : Decimal, t[p]? = levelAt levels p.value

/-- What a change leaves at each price of a table. -/
theorem getElem?_change (t : Table) (l : Level) (p : Decimal) :
    (t.change l)[p]? = if l.price.value = p.value then l.over t[p]? else t[p]? := by
  -- both operations look at the entry that shares its price with the change
  have hheld (hp : l.price.value = p.value) : t[l.price]? = t[p]? :=
    Std.TreeMap.getElem?_congr ((Decimal.compare_eq_eq_iff _ _).2 hp)
  by_cases hl : l.isRemoval = true
  · rw [change, if_pos hl, Std.TreeMap.getElem?_erase]
    by_cases hp : l.price.value = p.value
    · simp [(Decimal.compare_eq_eq_iff _ _).2 hp, hp, Level.over, hl]
    · simp [Decimal.compare_eq_eq_iff, hp]
  · rw [change, if_neg hl, enter, Std.TreeMap.getElem?_alter]
    by_cases hp : l.price.value = p.value
    · rw [if_pos ((Decimal.compare_eq_eq_iff _ _).2 hp), if_pos hp, hheld hp]
      cases t[p]? <;> simp [Level.over, hl]
    · rw [if_neg (mt (Decimal.compare_eq_eq_iff _ _).1 hp), if_neg hp]

namespace Holds

variable {side : Side} {t : Table} {levels : List Level}

theorem empty : Holds ∅ [] := fun _ => Std.TreeMap.getElem?_emptyc

/-- A change keeps table and list together. -/
theorem change (h : t.Holds levels) (ho : Ordered side levels) (l : Level) :
    (t.change l).Holds (Book.change side levels l) := by
  intro p
  rw [getElem?_change, levelAt_change ho, h p]

/-- Changes keep table and list together. -/
theorem foldl_change (h : t.Holds levels) (hs : IsSide side levels) (ls : List Level) :
    (ls.foldl Table.change t).Holds (ls.foldl (Book.change side) levels) := by
  induction ls using List.reverseRecOn with
  | nil => exact h
  | append_singleton ls l ih =>
    rw [List.foldl_append, List.foldl_append]
    exact ih.change (isSide_foldl_change hs ls).ordered l

/-- The table has the levels of the list and no others. -/
theorem mem_levels (h : t.Holds levels) (ho : Ordered side levels) (l : Level) :
    l ∈ t.levels ↔ l ∈ levels := by
  rw [Table.levels, List.mem_map]
  constructor
  · rintro ⟨⟨k, l⟩, hmem, rfl⟩
    have hheld := (Std.TreeMap.mem_toList_iff_getKey?_eq_some_and_getElem?_eq_some.1 hmem).2
    rw [h k, levelAt_eq_some_iff ho] at hheld
    exact hheld.1
  · intro hl
    have hheld : t[l.price]? = some l := by
      rw [h l.price, levelAt_eq_some_iff ho]
      exact ⟨hl, rfl⟩
    obtain ⟨k, -, hmem⟩ :=
      Std.TreeMap.getElem?_eq_some_iff_exists_compare_eq_eq_and_mem_toList.1 hheld
    exact ⟨(k, l), hmem, rfl⟩

/-- The levels of the table ascend. -/
theorem ascending_levels (h : t.Holds levels) (ho : Ordered side levels) :
    t.levels.Pairwise fun a b => a.price.value < b.price.value := by
  -- each entry stands under a spelling of its own price
  have hprice (x : Decimal × Level) (hx : x ∈ t.toList) : x.2.price.value = x.1.value := by
    have hheld := (Std.TreeMap.mem_toList_iff_getKey?_eq_some_and_getElem?_eq_some.1 hx).2
    rw [h x.1, levelAt_eq_some_iff ho] at hheld
    exact hheld.2
  rw [Table.levels, List.pairwise_map]
  refine t.ordered_keys_toList.imp_of_mem fun {x y} hx hy hxy => ?_
  rw [hprice x hx, hprice y hy]
  exact (Decimal.compare_eq_lt_iff _ _).1 hxy

/-- A table read out for a side is the list in the order of that side.

**Proof sketch.** Both are in the order of the side: the entries of the table ascend, and bids
are read out in reverse. Both have the same levels. -/
theorem arrange_levels (h : t.Holds levels) (ho : Ordered side levels) :
    side.arrange t.levels = levels := by
  have hascending := h.ascending_levels ho
  have harranged : Ordered side (side.arrange t.levels) := by
    simp only [Ordered, Side.compare_eq_lt_iff]
    cases side with
    | bid => simpa [Side.arrange, Side.rank, List.pairwise_reverse] using hascending
    | ask => simpa [Side.arrange, Side.rank] using hascending
  have hmem (l : Level) : l ∈ side.arrange t.levels ↔ l ∈ levels := by
    rw [← h.mem_levels ho l]
    cases side with
    | bid => exact List.mem_reverse
    | ask => rfl
  refine eq_of_levelAt_eq harranged ho fun q => Option.ext fun l => ?_
  rw [levelAt_eq_some_iff harranged, levelAt_eq_some_iff ho, hmem]

end Holds

end Table

/-! ### Merges -/

/-- **A merge is a table read out.** Any two lists of levels are merged. The same comes of
entering the levels of the first list that stand into a table ordered by number, doing the
changes of the second list there, and reading out the table: from the lowest price upwards for
asks, and from the highest one downwards for bids.

**Proof sketch.** A change leaves the same at each price of the table and of the list, so both
have the same levels at the end. Levels in order are told by that. -/
theorem merge_eq_arrange (side : Side) (previous incoming : List Level) :
    merge side previous incoming = side.arrange (Table.ofLists previous incoming).levels := by
  -- entering a level that stands is a change
  have hstanding : (previous.filter (!·.isRemoval)).foldl Table.enter ∅ =
      (previous.filter (!·.isRemoval)).foldl Table.change ∅ := by
    refine List.foldl_ext _ _ _ fun t l hl => ?_
    have hl' : l.isRemoval = false := by simpa using (List.mem_filter.1 hl).2
    rw [Table.change, if_neg (by simp [hl'])]
  have hprevious := Table.Holds.empty.foldl_change (isSide_nil side)
    (previous.filter (!·.isRemoval))
  have hall := hprevious.foldl_change
    (isSide_foldl_change (isSide_nil side) (previous.filter (!·.isRemoval))) incoming
  rw [Table.ofLists, hstanding]
  exact (hall.arrange_levels (isSide_merge side previous incoming).ordered).symm

/-- Bids are merged like asks, and reversed. -/
theorem merge_bid_eq_reverse (previous incoming : List Level) :
    merge .bid previous incoming = (merge .ask previous incoming).reverse := by
  rw [merge_eq_arrange, merge_eq_arrange]
  rfl

end Book

end BookFeed
