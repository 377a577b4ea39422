import BookFeed.Proofs.Command.TopOfBook
import BookFeed.Proofs.Decimal.Order
import BookFeed.Proofs.Seed.Order

set_option autoImplicit false

/-!
# The last close in a summary

The summary of candles names the close of one of them as the last one. It is that of the candle
at the end of the list, and the list is in the order of time, with all candles of which no end
is understood at its start. So as soon as the end of a single candle is understood, the close is
that of a candle that no other one outlasts, and of the latest such candle the server has sent.

## Main definitions

* `BookFeed.Command.Answers` — a server answers everything it is asked for.

## Main results

* `BookFeed.Command.run_seed` — what is written last is the summary of the candles in the
  order of time.
* `BookFeed.Command.names_latest_close` — whose close is named.
-/

namespace BookFeed.Command

open Json Seed

section Answering

variable {σ : Type}

/-- With settings that can be worked with, a server answers everything it is asked for, and it
has sent these candles. -/
def Answers (s : Settings) (get : Getter (StateM σ)) (interval : String) (st : σ)
    (cs : List Candle) : Prop :=
  ∃ c d p ts st₁ st₂ st₃ st₄, s.check = .ok () ∧ Client.new s.seedUrl = .ok c ∧
    (c.depth get).run st = (.ok d, st₁) ∧ (c.latestPrice get).run st₁ = (.ok p, st₂) ∧
    (c.trades get).run st₂ = (.ok ts, st₃) ∧
    (c.fetch get (Client.candlePath interval) Candle.readList).run st₃ = (.ok cs, st₄)

/-- Where everything is answered, what is written last is the summary of the candles in the
order of time. -/
theorem run_seed {s : Settings} {get : Getter (StateM σ)} {interval : String} {st : σ}
    {cs : List Candle} (h : Answers s get interval st cs) :
    ∃ before, ((seed s get interval).run st).1 =
      { out := before ++ candlesSummary interval (Candle.latestLast cs) } := by
  obtain ⟨c, d, p, ts, st₁, st₂, st₃, st₄, hsettings, hclient, hdepth, hprice, htrades,
    hfetch⟩ := h
  have hcandles : (c.candles get interval).run st₃ = (.ok (Candle.latestLast cs), st₄) := by
    rw [Client.candles, StateT.run_bind, hfetch]
    rfl
  have hall : ((seedAll s get interval).run.run "").run st =
      ((.ok (), depthSummary d ++ priceSummary p ++ tradesSummary ts ++
        candlesSummary interval (Candle.latestLast cs)), st₄) := by
    simp only [seedAll, hsettings, hclient]
    simp only [run_bind, run_summarize, hdepth, hprice, htrades, hcandles, String.empty_append]
  refine ⟨depthSummary d ++ priceSummary p ++ tradesSummary ts, ?_⟩
  rw [seed, StateT.run_bind, hall]
  rfl

end Answering

theorem exists_candlesSummary (interval : String) {cs : List Candle} {c : Candle}
    (h : cs.getLast? = some c) : ∃ first, candlesSummary interval cs =
      first ++ s!"  last close {String.ofList c.close.text}\n" :=
  ⟨s!"Klines ({interval}): {cs.length}\n", by rw [candlesSummary, h]⟩

/-- **The last close is that of the latest candle.** Putting candles in the order of time keeps
all of them. First come those whose end is not understood, as the server gave them; the others
follow with ascending ends, and as the server gave them where the ends are the same. If the end
of any candle is understood, the list ends with a candle of the greatest end, and of these with
the last one that the server gave; and whenever everything is answered, the close of this candle
is the last thing that is written.

**Proof sketch.** Sorting by a total order keeps what is equal in place (`Seed.filter_sorted`),
and in this order an end that is not understood comes before all others. The summary reads the
end of the list. -/
theorem names_latest_close (cs : List Candle) :
    (Candle.latestLast cs).Perm cs ∧
      (∃ timed, Candle.latestLast cs = cs.filter (·.millis? = none) ++ timed ∧
        InTime Candle.millis? (· ≤ ·) cs timed) ∧
      ((∃ c ∈ cs, c.millis? ≠ none) → ∃ c m, (Candle.latestLast cs).getLast? = some c ∧
        c.millis? = some m ∧ (∀ k ∈ cs, ∀ n ∈ k.millis?, n ≤ m) ∧
        (cs.filter (·.millis? = some m)).getLast? = some c ∧
        ∀ {σ : Type} (s : Settings) (get : Getter (StateM σ)) (interval : String) (st : σ),
          Answers s get interval st cs → ∃ before, ((seed s get interval).run st).1 =
            { out := before ++ s!"  last close {String.ofList c.close.text}\n" }) := by
  refine ⟨List.mergeSort_perm _ _, Candle.exists_timed cs, fun hunderstood => ?_⟩
  obtain ⟨c, m, hlast, hm, hgreatest, hserver⟩ := Candle.exists_latest hunderstood
  refine ⟨c, m, hlast, hm, hgreatest, hserver, fun s get interval st hanswers => ?_⟩
  obtain ⟨before, hout⟩ := run_seed hanswers
  obtain ⟨first, hsummary⟩ := exists_candlesSummary interval hlast
  exact ⟨before ++ first, by rw [hout, hsummary, ← String.append_assoc]⟩

/-- A candle in the form of the server, with its close and its end. -/
private def candleText (close finish : String) : String :=
  "\x7b\"open\":1,\"high\":9,\"low\":1,\"close\":" ++ close ++ ",\"end\":" ++ finish ++ "\x7d"

/-- Candles of which the first two end at the same time, and the last one nobody knows when. -/
private def candlesText : String :=
  "[" ++ ",".intercalate [candleText "2" "2000", candleText "3" "\"1970-01-01T01:00:02+01:00\"",
    candleText "4" "\"soon\""] ++ "]"

/-- Such a candle, read. -/
private def candle (close : Int) (finish : Option Timestamp) : Candle where
  opening := .orZero 1 0
  high := .orZero 9 0
  low := .orZero 1 0
  close := .orZero close 0
  finish := finish

/-- A server that gives these candles and little else. -/
private def candleServer : Getter (StateM Unit) := fun url =>
  pure (.ok ⟨200,
    if url.target == "/v1/depth".toList then "\x7b\"payload\":\x7b\x7d\x7d"
    else if url.target == "/v1/latestprice".toList then "\x7b\"price\":7\x7d"
    else if url.target == "/v1/trades".toList then "[]"
    else candlesText⟩)

/-- Of two candles that end at the same time, in two forms, the later one of the server is
named. -/
theorem names_latest_close_of_two :
    let cs := [candle 2 (some (.millis 2000)), candle 3 (some (.text "1970-01-01T01:00:02+01:00")),
      candle 4 (some (.text "soon"))]
    Answers {} candleServer "1m" () cs ∧ ∃ before, ((seed {} candleServer "1m").run ()).1 =
      { out := before ++ "  last close 3\n" } := by
  intro cs
  have htrades : (usualClient.fetch candleServer "trades" Trade.readList).run () = (.ok [], ()) :=
    congrArg (·, ()) (toOption_eq_some_iff.1 (by decide +kernel))
  have hanswers : Answers {} candleServer "1m" () cs := by
    refine ⟨usualClient, {}, ⟨.orZero 7 0, none⟩, Trade.recentFirst [], (), (), (), (), rfl,
      rfl, ?_, ?_, ?_, ?_⟩
    · exact congrArg (·, ()) (toOption_eq_some_iff.1 (by decide +kernel))
    · exact congrArg (·, ()) (toOption_eq_some_iff.1 (by decide +kernel))
    · rw [Client.trades, StateT.run_bind, htrades]
      rfl
    · exact congrArg (·, ()) (toOption_eq_some_iff.1 (by decide +kernel))
  obtain ⟨c, m, -, hm, hgreatest, hserver, hout⟩ :=
    (names_latest_close cs).2.2 ⟨candle 2 (some (.millis 2000)), by simp [cs], nofun⟩
  have hc : c ∈ cs := (List.mem_filter.1 (List.mem_of_getLast? hserver)).1
  have hle : ∀ k ∈ cs, ∀ n ∈ k.millis?, n ≤ 2000 := by decide +kernel
  obtain rfl : m = 2000 :=
    le_antisymm (hle c hc m hm) (hgreatest (candle 2 (some (.millis 2000))) (by simp [cs]) 2000 rfl)
  have hlast : (cs.filter (·.millis? = some 2000)).getLast? =
      some (candle 3 (some (.text "1970-01-01T01:00:02+01:00"))) := by decide +kernel
  obtain rfl := Option.some.inj (hserver.symm.trans hlast)
  exact ⟨hanswers, hout {} candleServer "1m" () hanswers⟩

end BookFeed.Command
