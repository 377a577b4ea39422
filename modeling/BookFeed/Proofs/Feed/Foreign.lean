import BookFeed.Proofs.Connection.Frames
import BookFeed.Proofs.Json.Written

set_option autoImplicit false

/-!
# Events that are not known

A frame whose payload names an event that is not known should be dropped. Its payload is read as
one of the book all the same, before its event is looked at: members of the foreign event that
are called `b`, `a` or `id` have to be changes of a side and a number. So frames of foreign
events come in two kinds. Where these members happen to be readable the frame carries nothing;
where they are not, it is taken for a malformed one and counted as such.

## Main definitions

* `BookFeed.Feed.ForeignFrame` — texts that are frames of an event that is not known.
* `BookFeed.Feed.Readable` — what such a frame shares with frames of the book can be read.

## Main results

* `BookFeed.Feed.foreign_dropped_iff` — a foreign frame is dropped iff that can be read, and
  counted as malformed otherwise.
-/

namespace BookFeed.Feed

open Json

theorem Payload.sound : Payload.record.Sound where
  nodup := by decide
  commutes := by simp [Payload.record, Member.commutes_of]

theorem Frame.sound : Frame.record.Sound where
  nodup := by decide
  commutes := by simp [Frame.record, Member.commutes_of]

/-! ### Frames of foreign events -/

/-- What a frame of an event that is not known holds as its payload, and the members of it. -/
inductive ForeignPayload : Option Node → List (String × Node) → Prop where
  /-- There is no payload. -/
  | absent : ForeignPayload none []
  /-- The payload is `null`. -/
  | null : ForeignPayload (some .null) []
  /-- The payload names another event than those of the book. -/
  | object {n : Node} {ds : List (String × Node)} {q : Quoted} (h : n.IsObject ds)
      (hkind : ds.lookup "e" = some (.string q)) (hother : q.text ≠ .ok depthChannel.toList) :
    ForeignPayload (some n) ds

/-- A text that is a frame of an event that is not known, with the name of its stream and the
members of its payload. -/
inductive ForeignFrame : String → Quoted → List (String × Node) → Prop where
  /-- An object with a stream, without figures and without a trade. -/
  | mk {text : String} {n : Node} {ms ds : List (String × Node)} {stream : Quoted}
      (htext : n.Padded text.toList) (hobject : n.IsObject ms)
      (hstream : ms.lookup "stream" = some (.string stream))
      (hticker : ms.lookup "tickerdata" = none) (htrade : ms.lookup "tradedata" = none)
      (hpayload : ForeignPayload (ms.lookup "data") ds) : ForeignFrame text stream ds

/-- What the frames of a foreign event share with those of the book can be read. -/
structure Readable (stream : Quoted) (ds : List (String × Node)) : Prop where
  stream : ∃ cs, stream.text = .ok cs
  kind : ∀ n ∈ ds.lookup "e", ∃ x, Reader.optional Reader.string n = .ok x
  bids : ∀ n ∈ ds.lookup "b", ∃ ls, Reader.list Book.Level.read n = .ok ls
  asks : ∀ n ∈ ds.lookup "a", ∃ ls, Reader.list Book.Level.read n = .ok ls
  id : ∀ n ∈ ds.lookup "id", ∃ x, Reader.optional Reader.natural n = .ok x

/-! ### Reading them -/

theorem payload_read_iff {n : Node} {ds : List (String × Node)} {cs : List Char}
    (h : n.IsObject ds) (hn : n.Spelt cs) {p : Payload} :
    Payload.record.read n = .ok p ↔
      (∀ f ∈ Payload.record.fields, f.Takes (ds.lookup f.name)) ∧
        Payload.record.fields.foldl (fun p f => f.fill (ds.lookup f.name) p)
          Payload.record.initial = p :=
  Record.read_eq_ok_iff Payload.sound (by simp [Payload.record, Member.of]) h hn

theorem payload_readable_iff {n : Node} {ds : List (String × Node)} {cs : List Char}
    (h : n.IsObject ds) (hn : n.Spelt cs) :
    (∃ p, Payload.record.read n = .ok p) ↔
      (∀ k ∈ ds.lookup "e", ∃ x, Reader.optional Reader.string k = .ok x) ∧
      (∀ k ∈ ds.lookup "b", ∃ ls, Reader.list Book.Level.read k = .ok ls) ∧
      (∀ k ∈ ds.lookup "a", ∃ ls, Reader.list Book.Level.read k = .ok ls) ∧
      ∀ k ∈ ds.lookup "id", ∃ x, Reader.optional Reader.natural k = .ok x := by
  simp only [payload_read_iff h hn, exists_and_left, exists_eq', and_true]
  simp [Payload.record]

/-- The event of a payload is the one that stands in it. -/
theorem payload_kind {n : Node} {ds : List (String × Node)} {cs es : List Char}
    (h : n.IsObject ds) (hn : n.Spelt cs) {q : Quoted} (hkind : ds.lookup "e" = some (.string q))
    (hq : q.text = .ok es) {p : Payload} (hp : Payload.record.read n = .ok p) :
    p.kind = some (String.ofList es) := by
  obtain ⟨-, rfl⟩ := (payload_read_iff h hn).1 hp
  have hread : Reader.optional Reader.string (.string q) = .ok (some (String.ofList es)) := by
    simp [Reader.optional, Reader.string, hq, Except.map]
  simp only [Payload.record, List.foldl_cons, List.foldl_nil, Member.name_of, hkind]
  iterate 3 rw [Member.fill_frame Payload.kind (by intros; rfl)]
  rw [Member.fill_of hread]

theorem optional_payload_iff {n : Node} {ds : List (String × Node)} (h : n.IsObject ds)
    {x : Option Payload} :
    Reader.optional Payload.record.read n = .ok x ↔
      ∃ p, Payload.record.read n = .ok p ∧ x = some p := by
  obtain @⟨members, -, -, -⟩ := h
  change (Payload.record.read (.object members none)).map some = .ok x ↔ _
  cases Payload.record.read (.object members none) <;> simp [Except.map, eq_comm]

theorem foreign_payload_readable_iff {n : Node} {ds : List (String × Node)} {cs : List Char}
    (h : ForeignPayload (some n) ds) (hn : n.Spelt cs) :
    (∃ x, Reader.optional Payload.record.read n = .ok x) ↔
      (∀ k ∈ ds.lookup "e", ∃ x, Reader.optional Reader.string k = .ok x) ∧
      (∀ k ∈ ds.lookup "b", ∃ ls, Reader.list Book.Level.read k = .ok ls) ∧
      (∀ k ∈ ds.lookup "a", ∃ ls, Reader.list Book.Level.read k = .ok ls) ∧
      ∀ k ∈ ds.lookup "id", ∃ x, Reader.optional Reader.natural k = .ok x := by
  cases h with
  | null => simp [Reader.optional]
  | object h hkind hother =>
    rw [← payload_readable_iff h hn]
    simp only [optional_payload_iff h]
    exact ⟨fun ⟨_, p, hp, _⟩ => ⟨p, hp⟩, fun ⟨p, hp⟩ => ⟨some p, p, hp, rfl⟩⟩

/-- A foreign payload that is read carries no changes of the book. -/
theorem foreign_payload_depth? {n : Node} {ds : List (String × Node)} {cs : List Char}
    (h : ForeignPayload (some n) ds) (hn : n.Spelt cs) {x : Option Payload}
    (hx : Reader.optional Payload.record.read n = .ok x) : x.bind Payload.depth? = none := by
  cases h with
  | null =>
    cases hx
    rfl
  | @object n ds q h hkind hother =>
    obtain ⟨p, hp, rfl⟩ := (optional_payload_iff h).1 hx
    obtain ⟨es, hes⟩ : ∃ es, q.text = .ok es := by
      obtain ⟨x, hx⟩ := ((payload_readable_iff h hn).1 ⟨p, hp⟩).1 _ hkind
      simp only [Reader.optional, Reader.string] at hx
      cases hq : q.text with
      | ok es => exact ⟨es, rfl⟩
      | error e =>
        rw [hq] at hx
        cases hx
    have hne : String.ofList es ≠ depthChannel := by
      rintro heq
      rw [hes, ← heq, String.toList_ofList] at hother
      exact hother rfl
    simp [Payload.depth?, payload_kind h hn hkind hes hp, hne]

theorem frame_read_iff {n : Node} {ms : List (String × Node)} {cs : List Char}
    (h : n.IsObject ms) (hn : n.Spelt cs) {f : Frame} :
    Frame.record.read n = .ok f ↔
      (∀ f ∈ Frame.record.fields, f.Takes (ms.lookup f.name)) ∧
        Frame.record.fields.foldl (fun s f => f.fill (ms.lookup f.name) s)
          Frame.record.initial = f :=
  Record.read_eq_ok_iff Frame.sound (by simp [Frame.record, Member.of, Member.demanded]) h hn

theorem string_readable_iff {q : Quoted} :
    (∃ s, Reader.string (.string q) = .ok s) ↔ ∃ cs, q.text = .ok cs := by
  rw [Reader.string]
  cases q.text <;> simp [Except.map]

theorem readable_iff {stream : Quoted} {ds : List (String × Node)} :
    Readable stream ds ↔
      (∃ s, Reader.string (.string stream) = .ok s) ∧
      (∀ k ∈ ds.lookup "e", ∃ x, Reader.optional Reader.string k = .ok x) ∧
      (∀ k ∈ ds.lookup "b", ∃ ls, Reader.list Book.Level.read k = .ok ls) ∧
      (∀ k ∈ ds.lookup "a", ∃ ls, Reader.list Book.Level.read k = .ok ls) ∧
      ∀ k ∈ ds.lookup "id", ∃ x, Reader.optional Reader.natural k = .ok x := by
  rw [string_readable_iff]
  exact ⟨fun h => ⟨h.stream, h.kind, h.bids, h.asks, h.id⟩,
    fun ⟨hstream, hkind, hbids, hasks, hid⟩ => ⟨hstream, hkind, hbids, hasks, hid⟩⟩

section

variable {n : Node} {ms ds : List (String × Node)} {cs : List Char} {stream : Quoted}
  (h : n.IsObject ms) (hn : n.Spelt cs) (hstream : ms.lookup "stream" = some (.string stream))
  (hticker : ms.lookup "tickerdata" = none) (htrade : ms.lookup "tradedata" = none)
  (hpayload : ForeignPayload (ms.lookup "data") ds)

include h hn

theorem frame_readable_iff (hstream : ms.lookup "stream" = some (.string stream))
    (hticker : ms.lookup "tickerdata" = none) (htrade : ms.lookup "tradedata" = none) :
    (∃ f, Frame.record.read n = .ok f) ↔
      (∃ s, Reader.string (.string stream) = .ok s) ∧
        ∀ k ∈ ms.lookup "data", ∃ x, Reader.optional Payload.record.read k = .ok x := by
  simp only [frame_read_iff h hn, exists_and_left, exists_eq', and_true]
  simp [Frame.record, hstream, hticker, htrade]

include hpayload

/-- The payload of a frame is written in its text. -/
theorem foreign_payload_in_frame :
    ms.lookup "data" = none ∧ ds = [] ∨
      ∃ k ks, ms.lookup "data" = some k ∧ k.Spelt ks ∧ ForeignPayload (some k) ds := by
  cases hdata : ms.lookup "data" with
  | none =>
    rw [hdata] at hpayload
    cases hpayload
    exact Or.inl ⟨rfl, rfl⟩
  | some k =>
    obtain ⟨before, after, hms, -⟩ := List.lookup_eq_some_iff.1 hdata
    obtain ⟨ks, hks⟩ := h.exists_spelt hn ("data", k) (by simp [hms])
    exact Or.inr ⟨k, ks, rfl, hks, hdata ▸ hpayload⟩

include hstream hticker htrade

/-- A frame of a foreign event is read just if what it shares with frames of the book is. -/
theorem foreign_frame_readable_iff :
    (∃ f, Frame.record.read n = .ok f) ↔ Readable stream ds := by
  rw [frame_readable_iff h hn hstream hticker htrade, readable_iff]
  refine and_congr_right fun _ => ?_
  rcases foreign_payload_in_frame h hn hpayload with ⟨hdata, rfl⟩ | ⟨k, ks, hdata, hks, hk⟩
  · simp [hdata]
  · rw [← foreign_payload_readable_iff hk hks, hdata]
    simp

/-- A frame of a foreign event that is read carries nothing. -/
theorem foreign_frame_event? {f : Frame} (hf : Frame.record.read n = .ok f) : f.event? = none := by
  have hreadable := (frame_readable_iff h hn hstream hticker htrade).1 ⟨f, hf⟩
  obtain ⟨-, hf⟩ := (frame_read_iff h hn).1 hf
  simp only [Frame.record, List.foldl_cons, List.foldl_nil, Member.name_of, Member.name_demanded,
    Member.fill_demanded, hstream, hticker, htrade, Member.fill_none] at hf
  have hticker : f.ticker = none := by
    rw [← hf]
    iterate 2 rw [Member.fill_frame Frame.ticker (by intros; rfl)]
  have htrade : f.trade = none := by
    rw [← hf]
    iterate 2 rw [Member.fill_frame Frame.trade (by intros; rfl)]
  have hdepth : f.payload.bind Payload.depth? = none := by
    rcases foreign_payload_in_frame h hn hpayload with ⟨hdata, rfl⟩
      | ⟨k, ks, hdata, hks, hk⟩
    · rw [← hf, hdata, Member.fill_none, Member.fill_frame Frame.payload (by intros; rfl)]
      rfl
    · obtain ⟨x, hx⟩ := hreadable.2 k hdata
      rw [← hf, hdata, Member.fill_of hx]
      exact foreign_payload_depth? hk hks hx
  simp [Frame.event?, hticker, htrade, hdepth]

end

theorem decode_eq {text : String} {n : Node} (h : n.Padded text.toList) :
    decode text =
      ((Frame.record.read n).map fun f =>
        f.event?.map (⟨f.stream, ·⟩)).mapError .malformed := by
  rw [decode, Reader.run_of_padded _ h]
  rfl

/-- **A frame of an event that is not known is dropped iff what it shares with frames of the
book can be read.** Otherwise it is malformed, and counted as a decode error.

**Proof sketch.** A record holds what its fields are given, so the frame is read iff its stream
and its payload are, and the payload iff its four fields are. Once they are, its event is the
one that stands in it, which is not one of the book. -/
theorem foreign_dropped_iff {text : String} {stream : Quoted} {ds : List (String × Node)}
    (h : ForeignFrame text stream ds) :
    (decode text = .ok none ↔ Readable stream ds) ∧
      (¬ Readable stream ds → ∃ e, decode text = .error (.malformed e)) ∧
      ∀ (κ : Type) (m : Connection.Manager κ),
        (m.tally (m.outcome text)).counters.decodeErrors = m.counters.decodeErrors ↔
          Readable stream ds := by
  obtain ⟨htext, hobject, hstream, hticker, htrade, hpayload⟩ := h
  obtain ⟨cs, hn⟩ := Node.exists_spelt_of_padded htext
  have hreadable := foreign_frame_readable_iff hobject hn hstream hticker htrade hpayload
  have hdecode := decode_eq htext
  have hcount (κ : Type) (m : Connection.Manager κ) :
      (m.tally (m.outcome text)).counters = m.counters.add (m.registry.fate text) :=
    congrArg (·.counters) (m.tally_outcome m text)
  cases hread : Frame.record.read _ with
  | ok f =>
    have hyes : Readable stream ds := hreadable.1 ⟨f, hread⟩
    have hnone : decode text = .ok none := by
      rw [hdecode, hread, Except.map,
        foreign_frame_event? hobject hn hstream hticker htrade hpayload hread]
      rfl
    refine ⟨iff_of_true hnone hyes, fun hnot => absurd hyes hnot,
      fun κ m => iff_of_true ?_ hyes⟩
    rw [hcount, Registry.fate, hnone]
    rfl
  | error e =>
    have hno : ¬ Readable stream ds := fun hyes => by
      obtain ⟨f, hf⟩ := hreadable.2 hyes
      rw [hread] at hf
      cases hf
    have herror : decode text = .error (.malformed e) := by
      rw [hdecode, hread]
      rfl
    refine ⟨iff_of_false (by rw [herror]; simp) hno, fun _ => ⟨e, herror⟩,
      fun κ m => iff_of_false ?_ hno⟩
    rw [hcount, Registry.fate, herror]
    exact Nat.succ_ne_self _

/-! ### A frame of each kind -/

/-- A frame with a stream and a payload that names an event. -/
def eventFrame (stream kind : String) (members : List (List Char × Value)) : Value :=
  .object
    [("stream".toList, .ofString stream),
     ("data".toList, .object (("e".toList, .ofString kind) :: members))]

theorem foreignFrame_eventFrame (stream : String) {kind : String}
    {members : List (List Char × Value)} (hkind : kind ≠ depthChannel)
    (hnodup : ((Value.entries (("e".toList, .ofString kind) :: members)).map Prod.fst).Nodup) :
    ForeignFrame (eventFrame stream kind members).toText (.ofText stream.toList)
      (Value.entries (("e".toList, .ofString kind) :: members)) := by
  refine .mk (Value.padded_toText _) (.mk (Value.keyed_entries _) ?_) rfl rfl rfl
    (.object (.mk (Value.keyed_entries _) hnodup) rfl ?_)
  · simp [Value.entries]
  · rw [Quoted.text_ofText]
    intro h
    exact hkind (String.toList_inj.1 (Except.ok.inj h))

/-- Two sides without changes. -/
private def emptySides : List (List Char × Value) :=
  [("b".toList, .array []), ("a".toList, .array [])]

/-- Candles come with two empty lists, which are read as sides without changes. -/
theorem foreign_dropped_iff_candles :
    decode
        "\x7b\"stream\":\"depth@BTC_USDC\",\"data\":\x7b\"e\":\"kline\",\"b\":[],\"a\":[]\x7d\x7d" =
      .ok none := by
  have hframe : ForeignFrame (eventFrame "depth@BTC_USDC" "kline" emptySides).toText _ _ :=
    foreignFrame_eventFrame "depth@BTC_USDC" (by decide) (by decide)
  refine (foreign_dropped_iff hframe).1.2 ⟨⟨_, Quoted.text_ofText _⟩, ?_, ?_, ?_, ?_⟩
  · rintro n ⟨⟩
    exact ⟨_, congrArg (Except.map some) (Reader.string_ofString "kline")⟩
  · rintro n ⟨⟩
    exact ⟨[], rfl⟩
  · rintro n ⟨⟩
    exact ⟨[], rfl⟩
  · rintro n ⟨⟩

/-- The best prices of a market, one to a side. -/
private def bestPrices : List (List Char × Value) :=
  [("b".toList, .ofString "18.67"), ("a".toList, .ofString "18.70")]

/-- A frame of best prices is well-formed and of an event that is not known, but it is not
dropped: its prices are taken for sides of the book. -/
theorem best_prices_malformed :
    ForeignFrame (eventFrame "bookTicker@SOL_USDC" "bookTicker" bestPrices).toText
        (.ofText "bookTicker@SOL_USDC".toList)
        (Value.entries (("e".toList, .ofString "bookTicker") :: bestPrices)) ∧
      (eventFrame "bookTicker@SOL_USDC" "bookTicker" bestPrices).toText =
        "\x7b\"stream\":\"bookTicker@SOL_USDC\",\"data\":" ++
          "\x7b\"e\":\"bookTicker\",\"b\":\"18.67\",\"a\":\"18.70\"\x7d\x7d" ∧
      decode (eventFrame "bookTicker@SOL_USDC" "bookTicker" bestPrices).toText =
        .error (.malformed (.wrongKind (.string "18.67".toList) "a sequence")) :=
  ⟨foreignFrame_eventFrame "bookTicker@SOL_USDC" (by decide) (by decide), by decide +kernel,
    by decide +kernel⟩

end BookFeed.Feed
