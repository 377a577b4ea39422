import Mathlib.Data.List.Sort
import BookFeed.Seed.Candle
import BookFeed.Seed.Trade

set_option autoImplicit false

/-!
# Lists in the order of time

Trades are listed with the most recent one first and candles with the latest one last, by times
that may be given in several forms or not at all. In both lists those whose time is not
understood stay together, in the order in which the server gave them: behind all trades, and
before all candles. The others are in the order of their times, and those of one time in the
order of the server.

## Main definitions

* `BookFeed.Seed.earlier` — the order of times, before all of which comes what is not
  understood.
* `BookFeed.Seed.InTime` — a list is put in the order of time.

## Main results

* `BookFeed.Seed.filter_sorted` — what is of one time keeps its order.
* `BookFeed.Seed.inTime_filter_sorted` — sorting puts what is understood in the order of time.
* `BookFeed.Seed.Trade.exists_timed`, `BookFeed.Seed.Candle.exists_timed` — the two lists.
* `BookFeed.Seed.Candle.exists_latest` — the candle that comes last.
-/

namespace BookFeed.Seed

/-! ### Times -/

/-- Whether a time may stand before another one, in ascending order. What is not understood may
stand before all times. -/
def earlier : Option ℤ → Option ℤ → Bool
  | none, _ => true
  | some _, none => false
  | some m, some n => m ≤ n

theorem earlier_trans (x y z : Option ℤ) (hxy : earlier x y = true) (hyz : earlier y z = true) :
    earlier x z = true := by
  cases x <;> cases y <;> cases z <;> simp_all [earlier]
  omega

theorem earlier_total (x y : Option ℤ) : (earlier x y || earlier y x) = true := by
  cases x <;> cases y <;> simp [earlier]
  omega

/-- Those of a list whose time is understood, put in the order of time: by a relation of their
times, and as they stand in the list where the times are the same. -/
structure InTime {α : Type} (time : α → Option ℤ) (order : ℤ → ℤ → Prop)
    (xs timed : List α) : Prop where
  /-- All times are understood. -/
  understood : ∀ a ∈ timed, time a ≠ none
  /-- They are in order. -/
  ordered : timed.Pairwise fun a b => ∀ m ∈ time a, ∀ n ∈ time b, order m n
  /-- Where the times are the same nothing has moved. -/
  stable : ∀ m, timed.filter (time · = some m) = xs.filter (time · = some m)

/-! ### Sorting by time -/

section Sorting

variable {α : Type} (time : α → Option ℤ) (le : Option ℤ → Option ℤ → Bool)

/-- A list sorted by a comparison of times. -/
def sorted (xs : List α) : List α := xs.mergeSort fun a b => le (time a) (time b)

variable (htrans : ∀ x y z, le x y = true → le y z = true → le x z = true)
  (htotal : ∀ x y, (le x y || le y x) = true)

include htrans htotal

theorem pairwise_sorted (xs : List α) :
    (sorted time le xs).Pairwise fun a b => le (time a) (time b) = true :=
  List.pairwise_mergeSort (fun a b c => htrans (time a) (time b) (time c))
    (fun a b => htotal (time a) (time b)) xs

/-- What is of one time keeps its order. -/
theorem filter_sorted (xs : List α) (x : Option ℤ) :
    (sorted time le xs).filter (time · = x) = xs.filter (time · = x) := by
  have hself : le x x = true := by simpa using htotal x x
  have hordered : (xs.filter (time · = x)).Pairwise fun a b => le (time a) (time b) = true := by
    refine List.pairwise_of_forall_mem_list fun a ha b hb => ?_
    rw [of_decide_eq_true (List.mem_filter.1 ha).2, of_decide_eq_true (List.mem_filter.1 hb).2]
    exact hself
  have hsub : (xs.filter (time · = x)).Sublist ((sorted time le xs).filter (time · = x)) := by
    have h := (List.sublist_mergeSort (fun a b c => htrans (time a) (time b) (time c))
      (fun a b => htotal (time a) (time b)) hordered List.filter_sublist).filter (time · = x)
    simpa only [List.filter_filter, Bool.and_self, sorted] using h
  exact (hsub.eq_of_length ((List.mergeSort_perm xs _).filter _).length_eq.symm).symm

/-- Sorting puts what is understood in the order of time. -/
theorem inTime_filter_sorted {order : ℤ → ℤ → Prop}
    (horder : ∀ m n, le (some m) (some n) = true → order m n) (xs : List α) :
    InTime time order xs ((sorted time le xs).filter (time · ≠ none)) where
  understood a ha := by simpa using (List.mem_filter.1 ha).2
  ordered := ((pairwise_sorted time le htrans htotal xs).filter _).imp fun hab m hm n hn => by
    rw [Option.mem_def.1 hm, Option.mem_def.1 hn] at hab
    exact horder m n hab
  stable m := by
    rw [List.filter_filter, ← filter_sorted time le htrans htotal xs]
    exact List.filter_congr fun a _ => by cases time a <;> simp

end Sorting

/-- A list in which whatever stands before something of a kind is of that kind starts with all
that is of the kind. -/
theorem eq_filter_append_of_pairwise {α : Type} {R : α → α → Prop} {p : α → Bool}
    {xs : List α} (hxs : xs.Pairwise R) (hp : ∀ a b, R a b → p b = true → p a = true) :
    xs = xs.filter p ++ xs.filter (!p ·) := by
  induction xs with
  | nil => rfl
  | cons x xs ih =>
    obtain ⟨hfirst, hrest⟩ := List.pairwise_cons.1 hxs
    have hih := ih hrest
    cases hx : p x with
    | true =>
      rw [List.filter_cons_of_pos hx, List.filter_cons_of_neg (by simp [hx]), List.cons_append,
        ← hih]
    | false =>
      have hnone : xs.filter p = [] := by
        refine List.filter_eq_nil_iff.2 fun a ha hpa => ?_
        rw [hp x a (hfirst a ha) hpa] at hx
        cases hx
      rw [hnone, List.nil_append] at hih
      rw [List.filter_cons_of_neg (by simp [hx]), List.filter_cons_of_pos (by simp [hx]), hnone,
        List.nil_append, ← hih]

/-! ### Trades -/

namespace Trade

theorem recentFirst_eq_sorted (ts : List Trade) :
    recentFirst ts = sorted Trade.millis? (fun x y => earlier y x) ts := by
  have hle : notAfter = fun a b => earlier b.millis? a.millis? := by
    funext a b
    unfold notAfter
    cases a.millis? <;> cases b.millis? <;> rfl
  rw [recentFirst, hle, sorted]

/-- **The most recent trade comes first.** Trades whose time is understood are in descending
order, and all others follow as the server gave them. -/
theorem exists_timed (ts : List Trade) :
    ∃ timed, recentFirst ts = timed ++ ts.filter (·.millis? = none) ∧
      InTime Trade.millis? (· ≥ ·) ts timed := by
  have htrans : ∀ x y z, earlier y x = true → earlier z y = true → earlier z x = true :=
    fun x y z hxy hyz => earlier_trans z y x hyz hxy
  have htotal : ∀ x y, (earlier y x || earlier x y) = true := fun x y => earlier_total y x
  refine ⟨_, ?_, inTime_filter_sorted Trade.millis? _ htrans htotal
    (fun m n h => of_decide_eq_true h) ts⟩
  rw [recentFirst_eq_sorted, ← filter_sorted Trade.millis? _ htrans htotal]
  refine (eq_filter_append_of_pairwise (pairwise_sorted Trade.millis? _ htrans htotal ts)
    (p := fun t => decide (t.millis? ≠ none)) fun a b hab hb => ?_).trans (by simp)
  cases ha : a.millis? with
  | none => cases hb' : b.millis? <;> simp_all [earlier]
  | some m => simp

end Trade

/-! ### Candles -/

namespace Candle

theorem latestLast_eq_sorted (cs : List Candle) :
    latestLast cs = sorted Candle.millis? earlier cs := by
  have hle : notAfter = fun a b => earlier a.millis? b.millis? := by
    funext a b
    unfold notAfter
    cases a.millis? <;> cases b.millis? <;> rfl
  rw [latestLast, hle, sorted]

/-- **The latest candle comes last.** Candles whose end is understood are in ascending order,
and all others come before them as the server gave them. -/
theorem exists_timed (cs : List Candle) :
    ∃ timed, latestLast cs = cs.filter (·.millis? = none) ++ timed ∧
      InTime Candle.millis? (· ≤ ·) cs timed := by
  refine ⟨_, ?_, inTime_filter_sorted Candle.millis? _ earlier_trans earlier_total
    (fun m n h => of_decide_eq_true h) cs⟩
  rw [latestLast_eq_sorted, ← filter_sorted Candle.millis? _ earlier_trans earlier_total]
  refine (eq_filter_append_of_pairwise
    (pairwise_sorted Candle.millis? _ earlier_trans earlier_total cs)
    (p := fun c => decide (c.millis? = none)) fun a b hab hb => ?_).trans (by simp)
  cases ha : a.millis? with
  | none => rfl
  | some m => cases hb' : b.millis? <;> simp_all [earlier]

/-- If the end of a candle is understood, the last candle is one with the greatest end, and of
these the last one that the server gave. -/
theorem exists_latest {cs : List Candle} (h : ∃ c ∈ cs, c.millis? ≠ none) :
    ∃ c m, (latestLast cs).getLast? = some c ∧ c.millis? = some m ∧
      (∀ k ∈ cs, ∀ n ∈ k.millis?, n ≤ m) ∧
        (cs.filter (·.millis? = some m)).getLast? = some c := by
  obtain ⟨timed, hlist, htimed⟩ := exists_timed cs
  -- whatever is understood is among the candles in order
  have hmem : ∀ k ∈ cs, ∀ n ∈ k.millis?, k ∈ timed := fun k hk n hn => by
    have hk' : k ∈ cs.filter (·.millis? = some n) :=
      List.mem_filter.2 ⟨hk, decide_eq_true hn⟩
    rw [← htimed.stable n] at hk'
    exact (List.mem_filter.1 hk').1
  obtain ⟨k, hk, hunderstood⟩ := h
  obtain ⟨n, hn⟩ := Option.ne_none_iff_exists'.1 hunderstood
  obtain ⟨before, c, rfl⟩ : ∃ before c, timed = before ++ [c] :=
    List.eq_nil_or_concat' timed |>.resolve_left (List.ne_nil_of_mem (hmem k hk n hn))
  obtain ⟨m, hm⟩ := Option.ne_none_iff_exists'.1 (htimed.understood c (by simp))
  refine ⟨c, m, by simp [hlist], hm, fun k hk n hn => ?_, ?_⟩
  · rcases List.mem_append.1 (hmem k hk n hn) with hbefore | hlast
    · exact (List.pairwise_append.1 htimed.ordered).2.2 k hbefore c (by simp) n hn m hm
    · obtain rfl := List.mem_singleton.1 hlast
      exact (Option.some.inj (hn.symm.trans hm)).le
  · rw [← htimed.stable m, List.filter_append]
    simp [hm]

end Candle

end BookFeed.Seed
