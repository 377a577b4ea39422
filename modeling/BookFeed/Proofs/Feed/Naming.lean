import BookFeed.Feed.StreamName
import Mathlib.Data.List.Basic
import Mathlib.Data.List.TakeWhile

set_option autoImplicit false

/-!
# Names of streams are read back

A name is written as a channel, an at sign and a market, and it is read by its first at sign.
The two undo each other for just those names whose channel is not empty and has no at sign of
its own, and whose market is not empty; the market may have as many at signs as it likes. A text
that is read is the written form of what it is read as, so no two texts are the same name.

## Main results

* `BookFeed.Feed.StreamName.exists_eq_text` — a text with an at sign is divided by the first
  one.
* `BookFeed.Feed.StreamName.parse?_text` — what a written name without an early at sign is
  read as.
* `BookFeed.Feed.StreamName.names_read_back` — writing and reading undo each other, and where
  not.
-/

namespace BookFeed.Feed.StreamName

/-! ### The first at sign -/

theorem toList_text (n : StreamName) :
    n.text.toList = n.channel.toList ++ separator :: n.market.toList := by
  simp [text, separator]

/-- A text with an at sign is divided by the first one. -/
theorem exists_eq_text {s : String} (h : separator ∈ s.toList) :
    ∃ n : StreamName, separator ∉ n.channel.toList ∧ n.text = s := by
  obtain ⟨channel, market, hs, hchannel⟩ := List.eq_append_cons_of_mem h
  refine ⟨⟨String.ofList channel, String.ofList market⟩, by simpa using hchannel, ?_⟩
  rw [← String.toList_inj, toList_text, hs]
  simp

theorem parse?_of_notMem {s : String} (h : separator ∉ s.toList) : parse? s = none := by
  have hall : s.toList.dropWhile (· != separator) = [] := by
    rw [List.dropWhile_eq_nil_iff]
    exact fun c hc => bne_iff_ne.2 fun heq => h (heq ▸ hc)
  simp [parse?, hall]

/-- A written name is divided where it was put together, unless an at sign stands in its
channel. -/
theorem parse?_text {n : StreamName} (h : separator ∉ n.channel.toList) :
    parse? n.text = if n.channel = "" ∨ n.market = "" then none else some n := by
  have hchannel : ∀ c ∈ n.channel.toList, (c != separator) = true :=
    fun c hc => bne_iff_ne.2 fun heq => h (heq ▸ hc)
  simp [parse?, toList_text, List.takeWhile_append_of_pos hchannel,
    List.dropWhile_append_of_pos hchannel]

/-- A text is read as a name just if it is the written form of the name, and the name has two
parts of which the first one has no at sign. -/
theorem parse?_eq_some_iff {s : String} {n : StreamName} :
    parse? s = some n ↔
      n.text = s ∧ n.channel ≠ "" ∧ separator ∉ n.channel.toList ∧ n.market ≠ "" := by
  constructor
  · intro hread
    by_cases hmem : separator ∈ s.toList
    · obtain ⟨k, hk, rfl⟩ := exists_eq_text hmem
      rw [parse?_text hk] at hread
      split at hread
      · cases hread
      · next hparts =>
        obtain rfl : k = n := Option.some.inj hread
        exact ⟨rfl, fun h => hparts (Or.inl h), hk, fun h => hparts (Or.inr h)⟩
    · rw [parse?_of_notMem hmem] at hread
      cases hread
  · rintro ⟨rfl, hchannel, hfirst, hmarket⟩
    rw [parse?_text hfirst, if_neg (not_or.2 ⟨hchannel, hmarket⟩)]

/-! ### What stands around it -/

/-- Nothing stands before the first at sign just if the channel is empty. -/
theorem channel_eq_empty_iff {n : StreamName} (h : separator ∉ n.channel.toList) :
    n.channel = "" ↔ ∃ market, n.text = "@" ++ market := by
  simp only [← String.toList_inj, toList_text]
  constructor
  · exact fun hempty => ⟨n.market, by simp [hempty, separator]⟩
  · rintro ⟨market, heq⟩
    cases hchannel : n.channel.toList with
    | nil => simp
    | cons c cs =>
      -- the text starts with the first character of the channel, which is no at sign
      rw [hchannel] at heq h
      obtain rfl : c = separator := by simpa [separator] using congrArg List.head? heq
      exact absurd List.mem_cons_self h

/-- Nothing stands behind the first at sign just if the market is empty. -/
theorem market_eq_empty_iff {n : StreamName} (h : separator ∉ n.channel.toList) :
    n.market = "" ↔
      ∃ channel : String, separator ∉ channel.toList ∧ n.text = channel ++ "@" := by
  simp only [← String.toList_inj, toList_text]
  constructor
  · exact fun hempty => ⟨n.channel, h, by simp [hempty, separator]⟩
  · rintro ⟨channel, hchannel, heq⟩
    have hdivided : channel.toList ++ separator :: [] =
        n.channel.toList ++ separator :: n.market.toList := by simpa [separator] using heq.symm
    obtain ⟨-, -, hmarket⟩ :=
      (List.append_cons_inj_of_notMem hchannel List.not_mem_nil).1 hdivided
    simpa using hmarket.symm

theorem parse?_eq_none_iff {s : String} :
    parse? s = none ↔
      separator ∉ s.toList ∨ (∃ market, s = "@" ++ market) ∨
        ∃ channel : String, separator ∉ channel.toList ∧ s = channel ++ "@" := by
  by_cases hmem : separator ∈ s.toList
  · obtain ⟨n, hn, rfl⟩ := exists_eq_text hmem
    rw [parse?_text hn, ← channel_eq_empty_iff hn, ← market_eq_empty_iff hn]
    simp [hmem, or_iff_not_imp_left]
  · simp [hmem, parse?_of_notMem hmem]

/-- **Names are read back.** A written name is read as itself just if its channel is not empty
and has no at sign and its market is not empty. A text that is read is the written form of the
name that it is read as. A text is refused just if it has no at sign, or nothing before its
first at sign, or nothing behind it.

**Proof sketch.** A text with an at sign is the written form of a name whose channel has none,
and reading finds this name again (`parse?_text`), unless one of its parts is empty. -/
theorem names_read_back :
    (∀ channel market : String,
      parse? (text ⟨channel, market⟩) = some ⟨channel, market⟩ ↔
      channel ≠ "" ∧ separator ∉ channel.toList ∧ market ≠ "") ∧
    (∀ (s : String) (n : StreamName), parse? s = some n → n.text = s) ∧
    ∀ s : String, parse? s = none ↔
      separator ∉ s.toList ∨ (∃ market, s = "@" ++ market) ∨
        ∃ channel : String, separator ∉ channel.toList ∧ s = channel ++ "@" := by
  refine ⟨fun channel market => ?_, fun s n hread => ?_, fun s => parse?_eq_none_iff⟩
  · rw [parse?_eq_some_iff, and_iff_right rfl]
  · exact (parse?_eq_some_iff.1 hread).1

/-- At signs behind the first one belong to the market. -/
theorem names_read_back_inner_sign :
    parse? "depth@SOL@USDC" = some ⟨"depth", "SOL@USDC"⟩ ∧
      text ⟨"depth", "SOL@USDC"⟩ = "depth@SOL@USDC" := by
  have hread : parse? "depth@SOL@USDC" = some ⟨"depth", "SOL@USDC"⟩ :=
    (names_read_back.1 "depth" "SOL@USDC").2 ⟨by decide, by decide, by decide⟩
  exact ⟨hread, names_read_back.2.1 _ _ hread⟩

end BookFeed.Feed.StreamName
