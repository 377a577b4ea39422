import BookFeed.Command.Seed
import BookFeed.Proofs.Book.Best
import BookFeed.Proofs.Book.Spelling
import BookFeed.Proofs.Json.Rearranged

set_option autoImplicit false

/-!
# The top of the book in a summary

The summary of a depth names the first price of each side as the best one. In a book that is so,
but the summary is drawn from a depth as the server has sent it, in whatever order and with
entries that take back earlier ones. Such a depth is not made a book before it is summed up. So
the summary names the best prices if and only if each side happens to start with the best price
at which something is left.

## Main definitions

* `BookFeed.Book.Stands` — something is left at a price when all entries are done.
* `BookFeed.Book.StartsWithBest` — a list of levels starts with the best price at which
  something is left.
* `BookFeed.Command.Adds` — writing that keeps what is written already.

## Main results

* `BookFeed.Book.head?_merge_nil_iff` — which lists of levels start like the side that they
  make.
* `BookFeed.Command.out_seed` — the summary of the depth is what is written first.
* `BookFeed.Command.names_top_iff` — when the summary names the best prices.
-/

namespace BookFeed.Book

/-! ### Levels in any order -/

/-- Something is left at a price: the last entry of this price is no removal. -/
def Stands (levels : List Level) (q : ℚ) : Prop :=
  ∃ l, lastAt levels q = some l ∧ l.isRemoval = false

/-- A list of levels is empty, or it starts with the best price at which something is left. -/
def StartsWithBest (side : Side) (levels : List Level) : Prop :=
  ∀ first, levels.head? = some first → Stands levels first.price.value ∧
    ∀ l ∈ levels, Stands levels l.price.value → side.rank first.price ≤ side.rank l.price

theorem Stands.exists_mem {levels : List Level} {q : ℚ} (h : Stands levels q) :
    ∃ l ∈ levels, l.price.value = q := by
  obtain ⟨l, hl, -⟩ := h
  have hmem := List.mem_of_getLast? hl
  rw [List.mem_filter, decide_eq_true_eq] at hmem
  exact ⟨l, hmem⟩

/-- The side that is made of some levels has a price iff something is left at it. -/
theorem exists_mem_merge_nil_iff (side : Side) (levels : List Level) (q : ℚ) :
    (∃ l ∈ merge side [] levels, l.price.value = q) ↔ Stands levels q := by
  have hquantity : quantityAt (merge side [] levels) q = (lastAt levels q).elim none Level.left :=
    quantityAt_foldl_change (isSide_nil side) levels q
  simp only [← levelAt_eq_some_iff (isSide_merge side [] levels).ordered,
    ← Option.isSome_iff_exists]
  rw [← Option.isSome_map (f := fun l : Level => l.quantity.value)]
  change (quantityAt (merge side [] levels) q).isSome ↔ _
  rw [hquantity, Stands]
  cases lastAt levels q with
  | none => simp
  | some l => simp [Level.left]

/-- Levels start with the price that the side made of them starts with iff this is the best
price at which something is left. -/
theorem head?_merge_nil_iff (side : Side) (levels : List Level) :
    levels.head?.map (·.price.value) = (merge side [] levels).head?.map (·.price.value) ↔
      StartsWithBest side levels := by
  cases levels with
  | nil => simp [StartsWithBest, merge]
  | cons first rest =>
    have hhead : ∀ p, (merge side [] (first :: rest)).head?.map (·.price) = some p ↔ _ :=
      head?_price_eq_some_iff (isSide_merge side [] (first :: rest)).ordered
    have hmerge := exists_mem_merge_nil_iff side (first :: rest)
    constructor
    · intro h x hx
      obtain rfl : first = x := by simpa using hx
      obtain ⟨top, htop, hvalue⟩ : ∃ top, (merge side [] (first :: rest)).head? = some top ∧
          top.price.value = first.price.value := by
        simpa [eq_comm] using h
      obtain ⟨-, hbest⟩ := (hhead top.price).1 (by rw [htop]; rfl)
      refine ⟨(hmerge _).1 ⟨top, List.mem_of_head? htop, hvalue⟩, fun l _ hl => ?_⟩
      -- an entry that is left has the number of a price of the side
      obtain ⟨x, hx, hxl⟩ := (hmerge _).2 hl
      rw [← (side.rank_eq_iff _ _).2 hvalue, ← (side.rank_eq_iff _ _).2 hxl]
      exact hbest x hx
    · intro h
      obtain ⟨hstands, hbest⟩ := h first rfl
      obtain ⟨l, hl, hvalue⟩ := (hmerge _).2 hstands
      have htop : (merge side [] (first :: rest)).head?.map (·.price) = some l.price := by
        refine (hhead l.price).2 ⟨⟨l, hl, rfl⟩, fun x hx => ?_⟩
        -- and a price of the side has the number of an entry that is left
        have hx' : Stands (first :: rest) x.price.value := (hmerge _).1 ⟨x, hx, rfl⟩
        obtain ⟨y, hy, hyx⟩ := hx'.exists_mem
        rw [(side.rank_eq_iff _ _).2 hvalue, ← (side.rank_eq_iff _ _).2 hyx]
        exact hbest y hy (hyx ▸ hx')
      have hnumber := congrArg (Option.map Decimal.value) htop
      rw [Option.map_map] at hnumber
      exact (congrArg some hvalue.symm).trans hnumber.symm

end BookFeed.Book

namespace BookFeed.Command

open Book Json Seed

/-! ### What is written -/

section Writing

variable {σ : Type}

/-- Writing that keeps what is written already, whether it fails or not. -/
def Adds {α : Type} (w : Writing (StateM σ) α) : Prop :=
  ∀ out st, ∃ more, ((w.run.run out).run st).1.2 = out ++ more

theorem run_bind {α β : Type} (w : Writing (StateM σ) α) (k : α → Writing (StateM σ) β)
    (out : String) (st : σ) : ((w >>= k).run.run out).run st =
      match (w.run.run out).run st with
      | ((.ok a, out), st) => ((k a).run.run out).run st
      | ((.error e, out), st) => ((.error e, out), st) := by
  rw [ExceptT.run_bind, StateT.run_bind, StateT.run_bind]
  rcases (w.run.run out).run st with ⟨⟨_ | a, out⟩, st⟩ <;> rfl

/-- Something that has been asked for is summed up behind what is written already. -/
theorem run_summarize {α : Type} (ask : StateM σ (Except FetchError α)) (summary : α → String)
    (out : String) (st : σ) : ((summarize ask summary).run.run out).run st =
      match ask.run st with
      | (.ok a, st) => ((.ok (), out ++ summary a), st)
      | (.error e, st) => ((.error (.ofFetch e), out), st) := by
  have hask : (((liftM (liftM ask : StateT String (StateM σ) _) : Writing (StateM σ) _).run.run
      out).run st) = ((.ok (ask.run st).1, out), (ask.run st).2) := rfl
  rw [summarize, run_bind, hask]
  rcases ask.run st with ⟨_ | a, st⟩ <;> rfl

theorem Adds.bind {α β : Type} {w : Writing (StateM σ) α} {k : α → Writing (StateM σ) β}
    (hw : Adds w) (hk : ∀ a, Adds (k a)) : Adds (w >>= k) := by
  intro out st
  obtain ⟨more, hmore⟩ := hw out st
  rw [run_bind]
  rcases hrun : (w.run.run out).run st with ⟨⟨e | a, out'⟩, st'⟩
  · rw [hrun] at hmore
    exact ⟨more, hmore⟩
  · rw [hrun] at hmore
    obtain ⟨rest, hrest⟩ := hk a out' st'
    refine ⟨more ++ rest, hrest.trans ?_⟩
    rw [← String.append_assoc]
    exact congrArg (· ++ rest) hmore

theorem adds_summarize {α : Type} (ask : StateM σ (Except FetchError α))
    (summary : α → String) :
    Adds (summarize ask summary) := by
  intro out st
  rw [run_summarize]
  rcases ask.run st with ⟨e | a, st⟩
  · exact ⟨"", String.append_empty.symm⟩
  · exact ⟨summary a, rfl⟩

theorem out_of (out : String) (ended : Except Fault Unit) : (Result.of out ended).out = out := by
  cases ended <;> rfl

/-- The depth is asked for first, and what is written first is the summary of the depth as it
has come. -/
theorem out_seed {s : Settings} {c : Client} {get : Getter (StateM σ)} (interval : String)
    {st : σ} {d : Depth} (hsettings : s.check = .ok ()) (hclient : Client.new s.seedUrl = .ok c)
    (hdepth : ((c.depth get).run st).1 = .ok d) :
    ∃ rest, ((seed s get interval).run st).1.out = depthSummary d ++ rest := by
  have hlater : Adds (do
      summarize (c.latestPrice get) priceSummary
      summarize (c.trades get) tradesSummary
      summarize (c.candles get interval) (candlesSummary interval)) :=
    (adds_summarize _ _).bind fun _ => (adds_summarize _ _).bind fun _ => adds_summarize _ _
  rcases hask : (c.depth get).run st with ⟨answer, st'⟩
  obtain rfl : answer = .ok d := by rw [← hdepth, hask]
  obtain ⟨rest, hrest⟩ := hlater ("" ++ depthSummary d) st'
  have hall : (((seedAll s get interval).run.run "").run st).1.2 = depthSummary d ++ rest := by
    simp only [seedAll, hsettings, hclient]
    rw [run_bind, run_summarize, hask, hrest, String.empty_append]
  refine ⟨rest, ?_⟩
  rw [← hall, seed, StateT.run_bind]
  exact out_of ..

end Writing

/-! ### The best prices -/

/-- **When a summary names the best prices.** With settings that can be worked with, everything
is asked for once, of any server, and it has answered with a depth. Whatever comes of the later
questions, the summary of this depth is written first, with the first price of each side as the
best one. The depth could be made a book, whose best bid is the greatest bid price and whose
best ask is the least ask price. The bid that is named is the best one of this book, as a
number, iff the answer has no bids, or they start with the best price at which something is
left; and so for the ask.

**Proof sketch.** The summary reads the first level of each side, as it was sent. In the book
the first level is the one of least rank, and the prices of the book are those at which
something is left, since at each price the last entry counts. -/
theorem names_top_iff {σ : Type} (s : Settings) (c : Client) (get : Getter (StateM σ))
    (interval : String) (st : σ) (d : Depth) (hsettings : s.check = .ok ())
    (hclient : Client.new s.seedUrl = .ok c) (hdepth : ((c.depth get).run st).1 = .ok d) :
    (∃ rest, ((seed s get interval).run st).1.out = depthSummary d ++ rest) ∧
      d.normalize.Readable ∧
      (d.bestBid.map (·.value) = d.normalize.bestBid.map (·.value) ↔
        StartsWithBest .bid d.bids) ∧
      (d.bestAsk.map (·.value) = d.normalize.bestAsk.map (·.value) ↔
        StartsWithBest .ask d.asks) := by
  refine ⟨out_seed interval hsettings hclient hdepth, (Depth.isBook_normalize d).readable, ?_,
    ?_⟩
  · rw [← head?_merge_nil_iff, Depth.bestBid, Depth.bestBid, Option.map_map, Option.map_map]
    rfl
  · rw [← head?_merge_nil_iff, Depth.bestAsk, Depth.bestAsk, Option.map_map, Option.map_map]
    rfl

/-- A server that answers questions for a depth with a text, and others not at all. -/
private def answering (body : String) : Getter (StateM Unit) := fun url =>
  pure (if url.target == "/v1/depth".toList then .ok ⟨200, body⟩ else .error .refused)

/-- A level with a whole price and a whole quantity. -/
private def priced (price quantity : Fin 500) : Level :=
  ⟨.ofInt price (by have := price.isLt; omega),
    .ofInt quantity (by have := quantity.isLt; omega)⟩

/-- The client of the usual settings. -/
def usualClient : Client where
  base :=
    { scheme := "http".toList
      authority := some { host := .name "localhost".toList, port := some 8080 }
      path := .segments ["v1".toList, []] }

/-- The bid 100 is taken back before it comes, and the bid 99 after it has come. -/
private def goneText : String :=
  "\x7b\"payload\":\x7b\"bids\":" ++
    "[[\"100\",\"0\"],[\"99\",\"1\"],[\"100\",\"2\"],[\"99\",\"0\"]]\x7d\x7d"

/-- Bids from below. -/
private def upwardText : String :=
  "\x7b\"payload\":\x7b\"bids\":[[\"99\",\"1\"],[\"100\",\"2\"]],\"asks\":[[\"101\",\"3\"]]\x7d\x7d"

/-- The first entry is a removal, but of the price that is the best one in the end. -/
theorem names_top_iff_removal_first :
    let d : Depth := ⟨[priced 100 0, priced 99 1, priced 100 2, priced 99 0], []⟩
    (∃ rest, ((seed {} (answering goneText) "1m").run ()).1.out =
        "Depth: 4 bids, 0 asks, best bid Some(100), best ask None\n" ++ rest) ∧
      d.normalize = ⟨[priced 100 2], []⟩ ∧ StartsWithBest .bid d.bids := by
  intro d
  have hdepth : ((usualClient.depth (answering goneText)).run ()).1 = .ok d :=
    toOption_eq_some_iff.1 (by decide +kernel)
  obtain ⟨⟨rest, hout⟩, -, hbids, -⟩ :=
    names_top_iff {} usualClient (answering goneText) "1m" () d rfl rfl hdepth
  have hsummary : depthSummary d =
      "Depth: 4 bids, 0 asks, best bid Some(100), best ask None\n" := by
    decide +kernel
  exact ⟨⟨rest, hsummary ▸ hout⟩, by decide +kernel, hbids.1 (by decide +kernel)⟩

/-- Where the lower one of two bids comes first, it is named as the best one. -/
theorem names_lower_bid :
    let d : Depth := ⟨[priced 99 1, priced 100 2], [priced 101 3]⟩
    ({} : Settings).check = .ok () ∧ Client.new ({} : Settings).seedUrl = .ok usualClient ∧
      ((usualClient.depth (answering upwardText)).run ()).1 = .ok d ∧
      ((seed {} (answering upwardText) "1m").run ()).1.out =
        "Depth: 2 bids, 1 asks, best bid Some(99), best ask Some(101)\n" ∧
      d.bestBid.map (·.value) = some 99 ∧ d.normalize.bestBid.map (·.value) = some 100 := by
  intro d
  exact ⟨rfl, rfl, toOption_eq_some_iff.1 (by decide +kernel), by decide +kernel,
    by decide +kernel, by decide +kernel⟩

end BookFeed.Command
