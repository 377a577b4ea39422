import BookFeed.Feed.Ticker
import BookFeed.Feed.TradeReport
import BookFeed.Proofs.Json.Written
import BookFeed.Seed.Price

set_option autoImplicit false

/-!
# Prices on the wire

Levels, depth, figures, reports of trades and latest prices are written and read back unchanged:
each decimal keeps its coefficient and its scale, each string its characters, and what is absent
stays absent. A level also keeps its spelling: two canonical texts are written back as they were
read.

## Main results

* `BookFeed.Book.Level.read_value`, `BookFeed.Book.Depth.read_value`,
  `BookFeed.Feed.Ticker.read_value`, `BookFeed.Feed.TradeReport.read_value`,
  `BookFeed.Seed.LatestPrice.read_value` — one type each.
* `BookFeed.Json.written_and_read_back` — both directions, for all of these types.
-/

namespace BookFeed

open Json

/-! ### Levels -/

namespace Book

namespace Level

theorem read_of_text {p q : Quoted} {cs ds : List Char} (hp : p.text = .ok cs)
    (hq : q.text = .ok ds) {price quantity : Decimal}
    (hprice : readPart (String.ofList cs) = .ok price)
    (hquantity : readPart (String.ofList ds) = .ok quantity) :
    Level.read (.array [.string p, .string q] none) = .ok ⟨price, quantity⟩ := by
  simp [Level.read, Reader.pair, Reader.next, Reader.string, Reader.fixedEnding, hp, hq, hprice,
    hquantity, bind, Except.bind, Except.map, pure, Except.pure]

theorem readPart_of_read {cs : List Char} (h : Decimal.Canonical cs) {d : Decimal}
    (hread : Decimal.read cs = .ok d) : readPart (String.ofList cs) = .ok d := by
  rw [readPart, String.toList_ofList, Decimal.trim_of_canonical h, hread]
  rfl

theorem readPart_text (d : Decimal) : readPart (String.ofList d.text) = .ok d :=
  readPart_of_read d.canonical_text d.read_text

theorem read_value (l : Level) : Level.read l.value.node = .ok l :=
  read_of_text (Quoted.text_ofText _) (Quoted.text_ofText _) (readPart_text l.price)
    (readPart_text l.quantity)

/-- Two canonical texts are a level that is written with these texts. -/
theorem exists_read_of_canonical {p q : Quoted} {cs ds : List Char} (hp : p.text = .ok cs)
    (hq : q.text = .ok ds) (hcs : Decimal.Canonical cs) (hds : Decimal.Canonical ds) :
    ∃ l, Level.read (.array [.string p, .string q] none) = .ok l ∧
      l.value = .array [.string cs, .string ds] := by
  obtain ⟨price, hprice, hcs'⟩ := Decimal.exists_read_of_canonical hcs
  obtain ⟨quantity, hquantity, hds'⟩ := Decimal.exists_read_of_canonical hds
  refine ⟨⟨price, quantity⟩, read_of_text hp hq (readPart_of_read hcs hprice)
    (readPart_of_read hds hquantity), ?_⟩
  rw [Level.value, Value.ofDecimal, Value.ofDecimal, hcs', hds']

end Level

namespace Depth

theorem sound : Depth.record.Sound where
  nodup := by decide
  commutes := by simp [Depth.record, bidsField, asksField, Member.commutes_of]

theorem read_value (d : Depth) : Depth.read d.value.node = .ok d := by
  have hside (ls : List Level) : Reader.list Level.read (levelsValue ls).node = .ok ls :=
    Reader.list_node Level.read_value ls
  refine Record.read_object sound rfl ?_ ?_
  · simp [Value.entries, Depth.record, bidsField, asksField, Member.given, Member.answersTo,
      Member.demanded, Member.of, Member.Takes, hside, Except.map]
  · simp [Record.filled, Value.entries, Depth.record, bidsField, asksField, Member.given,
      Member.answersTo, Member.demanded, Member.of, Member.fill, hside, Except.map]

end Depth

end Book

/-! ### Figures, trades and prices -/

namespace Feed

theorem read_figure (x : Option Decimal) :
    Reader.optional Reader.decimal (Value.ofOption .ofDecimal x).node = .ok x :=
  Reader.optional_ofOption fun d _ =>
    ⟨Reader.decimal_ofDecimal d, by simp [Value.ofDecimal, Value.node]⟩

theorem read_name (x : Option String) :
    Reader.optional Reader.string (Value.ofOption .ofString x).node = .ok x :=
  Reader.optional_ofOption fun s _ =>
    ⟨Reader.string_ofString s, by simp [Value.ofString, Value.node]⟩

namespace Ticker

theorem sound : Ticker.record.Sound where
  nodup := by decide
  commutes := by simp [Ticker.record, Member.commutes_of]

theorem read_value (t : Ticker) : Ticker.read t.value.node = .ok t := by
  refine Record.read_object sound rfl ?_ ?_
  · simp [Value.entries, Ticker.record, Member.given, Member.answersTo, Member.orNamed, Member.of,
      Member.Takes, figure, readFigure, read_figure, read_name, Except.map]
  · simp [Record.filled, Value.entries, Ticker.record, Member.given, Member.answersTo,
      Member.orNamed, Member.of, Member.fill, figure, readFigure, read_figure, read_name,
      Except.map]

end Ticker

namespace TradeReport

theorem sound : TradeReport.record.Sound where
  nodup := by decide
  commutes := by simp [TradeReport.record, Member.commutes_of]

/-- Whether the time of a report has at most 64 bits. -/
def Timely (t : TradeReport) : Prop :=
  ∀ n ∈ t.timestamp, -9223372036854775808 ≤ n ∧ n < 9223372036854775808

theorem read_value {t : TradeReport} (h : t.Timely) : TradeReport.read t.value.node = .ok t := by
  have htime : Reader.optional Reader.integer (Value.ofOption .integer t.timestamp).node =
      .ok t.timestamp :=
    Reader.optional_ofOption fun n hn =>
      ⟨Reader.integer_node (h n hn).1 (h n hn).2, by simp [Value.node]⟩
  refine Record.read_object sound rfl ?_ ?_
  · simp [Value.entries, TradeReport.record, Member.given, Member.answersTo, Member.of,
      Member.Takes, readName, readFigure, read_figure, read_name, htime, Except.map]
  · simp [Record.filled, Value.entries, TradeReport.record, Member.given, Member.answersTo,
      Member.of, Member.fill, readName, readFigure, read_figure, read_name, htime, Except.map]

end TradeReport

end Feed

namespace Seed.LatestPrice

theorem sound : LatestPrice.record.Sound where
  nodup := by decide
  commutes := by simp [LatestPrice.record, Member.commutes_of]

theorem read_value (p : LatestPrice) : LatestPrice.read p.value.node = .ok p := by
  refine Record.read_object sound rfl ?_ ?_
  · simp [Value.entries, LatestPrice.record, Member.given, Member.answersTo, Member.demanded,
      Member.of, Member.Takes, Reader.decimal_ofDecimal, Feed.read_name, Except.map]
  · simp [Record.filled, Value.entries, LatestPrice.record, Member.given, Member.answersTo,
      Member.demanded, Member.of, Member.fill, Reader.decimal_ofDecimal, Feed.read_name, Except.map]

end Seed.LatestPrice

/-! ### All of them -/

namespace Json

/-- **What carries prices survives the wire.** Every level, depth, ticker, report and latest
price is read back from its written form as it was. Every spelling of a pair of canonical
decimal texts is read as a level that is written with the very same texts.

**Proof sketch.** Written texts are spellings of their values, so only the readers remain: a
decimal is read from the digits that it is written with, and a record holds what its fields are
given. -/
theorem written_and_read_back :
    (∀ l : Book.Level, Reader.run Book.Level.read l.value.toText = .ok l) ∧
    (∀ d : Book.Depth, Reader.run Book.Depth.read d.value.toText = .ok d) ∧
    (∀ t : Feed.Ticker, Reader.run Feed.Ticker.read t.value.toText = .ok t) ∧
    (∀ t : Feed.TradeReport, t.Timely →
      Reader.run Feed.TradeReport.read t.value.toText = .ok t) ∧
    (∀ p : Seed.LatestPrice, Reader.run Seed.LatestPrice.read p.value.toText = .ok p) ∧
    ∀ (text : String) (p q : Quoted) (cs ds : List Char),
      (Node.array [.string p, .string q] none).Padded text.toList →
      p.text = .ok cs → q.text = .ok ds → Decimal.Canonical cs → Decimal.Canonical ds →
      ∃ l : Book.Level, Reader.run Book.Level.read text = .ok l ∧
        l.value = .array [.string cs, .string ds] := by
  refine ⟨fun l => ?_, fun d => ?_, fun t => ?_, fun t ht => ?_, fun p => ?_, ?_⟩
  · rw [Reader.run_toText, Book.Level.read_value]
  · rw [Reader.run_toText, Book.Depth.read_value]
  · rw [Reader.run_toText, Feed.Ticker.read_value]
  · rw [Reader.run_toText, Feed.TradeReport.read_value ht]
  · rw [Reader.run_toText, Seed.LatestPrice.read_value]
  · intro text p q cs ds htext hp hq hcs hds
    rw [Reader.run_of_padded _ htext]
    exact Book.Level.exists_read_of_canonical hp hq hcs hds

/-- A report that leaves out all names. -/
private def namelessReport : Feed.TradeReport where
  price := some (.ofInt 18 (by decide))
  timestamp := some 1700000000000

/-- A price and a quantity of zero. -/
private def removalPair : Value := .array [.string "18.70".toList, .string "0".toList]

theorem written_and_read_back_removal :
    Reader.run Feed.TradeReport.read namelessReport.value.toText = .ok namelessReport ∧
      ∃ l : Book.Level, Reader.run Book.Level.read "[\"18.70\",\"0\"]" = .ok l ∧
        l.value = removalPair := by
  have htimely : namelessReport.Timely := by
    rintro n ⟨⟩
    decide
  have hprice : Decimal.Canonical "18.70".toList :=
    @Decimal.Canonical.mk false ['1', '8'] ['7', '0'] (by simp) (by simp) (by simp) (by simp)
      (by simp) (by decide +kernel) (by simp)
  have hquantity : Decimal.Canonical "0".toList :=
    @Decimal.Canonical.mk false ['0'] [] (by simp) (by simp) (by simp) (by simp) (by simp)
      (by decide +kernel) (by simp)
  obtain ⟨-, -, -, hreport, -, hlevel⟩ := written_and_read_back
  exact ⟨hreport namelessReport htimely, hlevel _ _ _ _ _ removalPair.padded_toText
    (Quoted.text_ofText _) (Quoted.text_ofText _) hprice hquantity⟩

end Json

end BookFeed
