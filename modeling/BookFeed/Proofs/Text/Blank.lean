import Mathlib.Data.List.TakeWhile
import BookFeed.Text.Blank

set_option autoImplicit false

/-!
# White space around a text

What is cut off from a text is the white space at its two ends, and nothing else. Inside of the
text there may be more of it.

## Main definitions

* `BookFeed.Text.Trimmed` — a text that neither starts nor ends with white space.

## Main results

* `BookFeed.Text.trim_append` — white space around such a text is cut off.
* `BookFeed.Text.exists_trim` — from any text nothing but white space is cut off.
-/

namespace BookFeed.Text

/-- A text that neither starts nor ends with white space. -/
structure Trimmed (cs : List Char) : Prop where
  head? : ∀ c ∈ cs.head?, isBlank c = false
  getLast? : ∀ c ∈ cs.getLast?, isBlank c = false

theorem trimmed_of_forall {cs : List Char} (h : ∀ c ∈ cs, isBlank c = false) : Trimmed cs where
  head? c hc := h c (List.mem_of_head? hc)
  getLast? c hc := h c (List.mem_of_getLast? hc)

theorem dropWhile_of_head? {cs : List Char} (h : ∀ c ∈ cs.head?, isBlank c = false) :
    cs.dropWhile isBlank = cs := by
  cases cs with
  | nil => rfl
  | cons c cs => simp [h c rfl]

/-- White space around a text is cut off. -/
theorem trim_append {b cs b' : List Char} (hb : ∀ c ∈ b, isBlank c = true) (hcs : Trimmed cs)
    (hb' : ∀ c ∈ b', isBlank c = true) : trim (b ++ cs ++ b') = cs := by
  have hstart : trimStart (b ++ cs ++ b') = trimStart (cs ++ b') := by
    rw [trimStart, List.append_assoc, List.dropWhile_append_of_pos hb, trimStart]
  rw [trim, hstart]
  cases cs with
  | nil =>
    have hnil : b'.dropWhile isBlank = [] := List.dropWhile_eq_nil_iff.2 hb'
    simp [trimStart, trimEnd, hnil]
  | cons c cs =>
    have hfront : trimStart (c :: cs ++ b') = c :: cs ++ b' :=
      dropWhile_of_head? fun d hd => hcs.head? d hd
    have hback : ∀ d ∈ b'.reverse, isBlank d = true := fun d hd => hb' d (List.mem_reverse.1 hd)
    have hlast : (c :: cs).reverse.dropWhile isBlank = (c :: cs).reverse :=
      dropWhile_of_head? fun d hd => hcs.getLast? d (List.head?_reverse ▸ hd)
    rw [hfront, trimEnd, List.reverse_append, List.dropWhile_append_of_pos hback, hlast,
      List.reverse_reverse]

theorem trim_eq_self {cs : List Char} (h : Trimmed cs) : trim cs = cs := by
  simpa using @trim_append [] cs [] (by simp) h (by simp)

/-- Nothing but white space is cut off. -/
theorem exists_trim (cs : List Char) : ∃ b b' : List Char,
    (∀ c ∈ b, isBlank c = true) ∧ (∀ c ∈ b', isBlank c = true) ∧
      cs = b ++ trim cs ++ b' := by
  have hstart : cs = cs.takeWhile isBlank ++ trimStart cs := (List.takeWhile_append_dropWhile).symm
  have hend : trimStart cs = trim cs ++ ((trimStart cs).reverse.takeWhile isBlank).reverse := by
    rw [trim, trimEnd, ← List.reverse_append, List.takeWhile_append_dropWhile,
      List.reverse_reverse]
  refine ⟨cs.takeWhile isBlank, ((trimStart cs).reverse.takeWhile isBlank).reverse,
    fun c hc => List.mem_takeWhile_imp hc,
    fun c hc => List.mem_takeWhile_imp (List.mem_reverse.1 hc), ?_⟩
  rw [List.append_assoc, ← hend, ← hstart]

end BookFeed.Text
