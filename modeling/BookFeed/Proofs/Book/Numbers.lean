import Mathlib.Tactic.NormNum
import BookFeed.Proofs.Book.Batches
import BookFeed.Proofs.Decimal.Exact
import BookFeed.Proofs.Json.RoundTrip

set_option autoImplicit false

/-!
# One number is one level

A price may be spelled in many ways, in one message with more zeros than in the next, with a
plus sign or with white space around it. All spellings of a number for which decimals have room
are read as decimals of that number, and a merge tells prices apart by their numbers. So a
removal finds its level and a change replaces it, however the two are spelled.

## Main definitions

* `BookFeed.Book.LevelText` — the texts of a level with a price and a quantity.

## Main results

* `BookFeed.Book.exists_run_of_levelText` — such a text is read as a level of these two
  numbers.
* `BookFeed.Book.levelsAt_merge_pair` — what two changes of one number leave at it.
* `BookFeed.Book.one_number_one_level` — both together.
-/

namespace BookFeed.Book

open Json

/-! ### Texts of levels -/

/-- The texts of a level: an array of two strings, which denote its price and its quantity. -/
inductive LevelText : String → ℚ → ℚ → Prop where
  /-- Any spelling of the array and of the strings. -/
  | mk {text : String} {p q : Quoted} {cs ds : List Char} {x y : ℚ}
      (htext : (Node.array [.string p, .string q] none).Padded text.toList)
      (hp : p.text = .ok cs) (hq : q.text = .ok ds) (hprice : Decimal.Denotes cs x)
      (hquantity : Decimal.Denotes ds y) : LevelText text x y

theorem exists_readPart {cs : List Char} {x : ℚ} (h : Decimal.Denotes cs x)
    (hx : Decimal.Fits x) :
    ∃ d, Level.readPart (String.ofList cs) = .ok d ∧ d.value = x := by
  obtain ⟨d, hread, hd⟩ := Decimal.exists_read_of_denotes h hx
  refine ⟨d, ?_, hd⟩
  rw [Level.readPart, String.toList_ofList, hread]
  rfl

/-- A text of a level is read as a level of the two numbers. -/
theorem exists_run_of_levelText {text : String} {x y : ℚ} (h : LevelText text x y)
    (hx : Decimal.Fits x) (hy : Decimal.Fits y) :
    ∃ l, Reader.run Level.read text = .ok l ∧ l.price.value = x ∧ l.quantity.value = y := by
  obtain ⟨htext, hp, hq, hprice, hquantity⟩ := h
  obtain ⟨price, hreadPrice, rfl⟩ := exists_readPart hprice hx
  obtain ⟨quantity, hreadQuantity, rfl⟩ := exists_readPart hquantity hy
  refine ⟨⟨price, quantity⟩, ?_, rfl, rfl⟩
  rw [Reader.run_of_padded _ htext, Level.read_of_text hp hq hreadPrice hreadQuantity]

theorem isRemoval_iff (l : Level) : l.isRemoval = true ↔ l.quantity.value = 0 :=
  Decimal.isZero_iff l.quantity

theorem isRemoval_eq_false_iff (l : Level) : l.isRemoval = false ↔ l.quantity.value ≠ 0 := by
  rw [← Bool.not_eq_true, isRemoval_iff]

/-! ### Two changes of one number -/

theorem Level.over_eq_none {l : Level} (hl : l.isRemoval = true) (held : Option Level) :
    l.over held = none := by
  simp [Level.over, hl]

/-- In an ordered list there is at most one level of a price. -/
theorem levelsAt_of_ordered {side : Side} {levels : List Level} (h : Ordered side levels)
    (q : ℚ) :
    levelsAt levels q = (levelAt levels q).toList := by
  induction levels with
  | nil => rfl
  | cons l ls ih =>
    have hls := (ordered_cons.1 h).2
    rw [levelAt_cons, levelsAt, List.filter_cons, ← levelsAt, ih hls]
    by_cases hq : l.price.value = q
    · simp [hq, ← levelAt_tail_eq_none h]
    · simp [hq]

/-- The second of two changes of one number decides what stands there. -/
theorem levelsAt_merge_pair (side : Side) (previous : List Level) {l k : Level} {x : ℚ}
    (hl : l.price.value = x) (hk : k.price.value = x) :
    levelsAt (merge side previous [l, k]) x =
      (k.over (l.over (levelAt (merge side previous []) x))).toList := by
  have hside := isSide_merge side previous []
  have hpair : merge side previous [l, k] =
      change side (change side (merge side previous []) l) k :=
    rfl
  rw [levelsAt_of_ordered (isSide_merge side previous _).ordered, hpair,
    levelAt_change (ordered_change hside.ordered l), levelAt_change hside.ordered, if_pos hk,
    if_pos hl]

/-- Two changes of one number, and nothing else. -/
theorem merge_nil_pair (side : Side) {l k : Level} (h : l.price.value = k.price.value)
    (hl : l.isRemoval = false) :
    merge side [] [l, k] = if k.isRemoval then [] else [⟨l.price, k.quantity⟩] := by
  have hcompare : side.compare k.price l.price = .eq := (side.compare_eq_eq_iff _ _).2 h.symm
  have hsame : l.price.same k.price = true := (Decimal.same_iff _ _).2 h
  cases hk : k.isRemoval <;> simp [merge, change, place, clear, hl, hk, hcompare, hsame]

/-- **One number is one level, however it is spelled.** Take two texts of levels whose prices
are texts of one number, and let decimals have room for this number and for the two quantities.
Both are read as levels of this number, and a level is a removal just if the text of its
quantity denotes zero. A removal leaves nothing of the other level, and of two levels with
something left one remains, with the quantity of the second one; at this number that is so
whatever is held before, and whether the two come in one batch or in two.

**Proof sketch.** What there is room for is read without loss (`exists_run_of_levelText`). A
merge finds equal numbers at one place, where the last change counts (`levelsAt_merge_pair`). -/
theorem one_number_one_level {text text' : String} {x y z : ℚ} (h : LevelText text x y)
    (h' : LevelText text' x z) (hx : Decimal.Fits x) (hy : Decimal.Fits y) (hz : Decimal.Fits z) :
    ∃ l k : Level, Reader.run Level.read text = .ok l ∧ Reader.run Level.read text' = .ok k ∧
      l.price.value = x ∧ k.price.value = x ∧
      (l.isRemoval = true ↔ y = 0) ∧ (k.isRemoval = true ↔ z = 0) ∧
      ∀ side,
        (y ≠ 0 → z = 0 → merge side [] [l, k] = []) ∧
        (y ≠ 0 → z ≠ 0 → merge side [] [l, k] = [⟨l.price, k.quantity⟩]) ∧
        ∀ previous,
          merge side (merge side previous [l]) [k] = merge side previous [l, k] ∧
          (z = 0 → levelsAt (merge side previous [l, k]) x = []) ∧
          (z ≠ 0 → ∃ m, levelsAt (merge side previous [l, k]) x = [m] ∧
            m.quantity = k.quantity) := by
  obtain ⟨l, hrun, hl, rfl⟩ := exists_run_of_levelText h hx hy
  obtain ⟨k, hrun', hk, rfl⟩ := exists_run_of_levelText h' hx hz
  have hprice : l.price.value = k.price.value := hl.trans hk.symm
  refine ⟨l, k, hrun, hrun', hl, hk, isRemoval_iff l, isRemoval_iff k, fun side =>
    ⟨fun hlive hgone => ?_, fun hlive hstays => ?_, fun previous =>
      ⟨(merge_append side previous [l] [k]).symm, fun hgone => ?_, fun hstays => ?_⟩⟩⟩
  · rw [merge_nil_pair side hprice ((isRemoval_eq_false_iff l).2 hlive),
      if_pos ((isRemoval_iff k).2 hgone)]
  · rw [merge_nil_pair side hprice ((isRemoval_eq_false_iff l).2 hlive),
      if_neg (mt (isRemoval_iff k).1 hstays)]
  · rw [levelsAt_merge_pair side previous hl hk, Level.over_eq_none ((isRemoval_iff k).2 hgone)]
    rfl
  · rw [levelsAt_merge_pair side previous hl hk,
      Level.over_eq_some ((isRemoval_eq_false_iff k).2 hstays)]
    exact ⟨_, rfl, rfl⟩

/-- A level with zeros around its price, more of them behind the point than a decimal can
have. -/
private def longLevel : Value :=
  .array [.string " +0018.7000000000000000000000000000000000".toList, .string "1.".toList]

/-- A removal of the same price. -/
private def shortRemoval : Value := .array [.string "18.7".toList, .string "-.000".toList]

/-- The removal finds the level, although the one price has 34 digits behind the point and the
other one a single digit. -/
theorem one_number_one_level_many_zeros :
    LevelText longLevel.toText (187 / 10) 1 ∧ LevelText shortRemoval.toText (187 / 10) 0 ∧
      ∃ l k : Level, Reader.run Level.read longLevel.toText = .ok l ∧
        Reader.run Level.read shortRemoval.toText = .ok k ∧ merge .bid [] [l, k] = [] := by
  have hlong : Decimal.Denotes " +0018.7000000000000000000000000000000000".toList (187 / 10) := by
    have hnumber :
        Decimal.numberOf false "0018".toList "7000000000000000000000000000000000".toList =
        187 / 10 := by decide +kernel
    exact hnumber ▸ @Decimal.Denotes.mk false [' '] ['+'] "0018".toList
      "7000000000000000000000000000000000".toList _ [] (List.all_eq_true.1 rfl) .plus
      (List.all_eq_true.1 rfl) (List.all_eq_true.1 rfl) (.present _) (by decide) nofun
  have hone : Decimal.Denotes "1.".toList 1 := by
    have hnumber : Decimal.numberOf false "1".toList [] = 1 := by decide +kernel
    exact hnumber ▸ @Decimal.Denotes.mk false [] [] "1".toList [] _ [] nofun .absent
      (List.all_eq_true.1 rfl) nofun (.present _) (by decide) nofun
  have hshort : Decimal.Denotes "18.7".toList (187 / 10) := by
    have hnumber : Decimal.numberOf false "18".toList "7".toList = 187 / 10 := by decide +kernel
    exact hnumber ▸ @Decimal.Denotes.mk false [] [] "18".toList "7".toList _ [] nofun .absent
      (List.all_eq_true.1 rfl) (List.all_eq_true.1 rfl) (.present _) (by decide) nofun
  have hzero : Decimal.Denotes "-.000".toList 0 := by
    have hnumber : Decimal.numberOf true [] "000".toList = 0 := by decide +kernel
    exact hnumber ▸ @Decimal.Denotes.mk true [] ['-'] [] "000".toList _ [] nofun .minus nofun
      (List.all_eq_true.1 rfl) (.present _) (by decide) nofun
  have hlevel : LevelText longLevel.toText (187 / 10) 1 :=
    .mk longLevel.padded_toText (Quoted.text_ofText _) (Quoted.text_ofText _) hlong hone
  have hremoval : LevelText shortRemoval.toText (187 / 10) 0 :=
    .mk shortRemoval.padded_toText (Quoted.text_ofText _) (Quoted.text_ofText _) hshort hzero
  obtain ⟨l, k, hl, hk, -, -, -, -, hmerge⟩ := one_number_one_level hlevel hremoval
    ⟨187, 1, by decide, by decide, by norm_num⟩ ⟨1, 0, by decide, by decide, by norm_num⟩
    ⟨0, 0, by decide, by decide, by norm_num⟩
  exact ⟨hlevel, hremoval, l, k, hl, hk, (hmerge .bid).1 one_ne_zero rfl⟩

end BookFeed.Book
