import BookFeed.Proofs.Feed.Foreign
import BookFeed.Proofs.Json.Rearranged
import BookFeed.Proofs.Json.RoundTrip

set_option autoImplicit false

/-!
# Frames in another order

The members of a frame may come in any order, and so may those of its payload, its figures and
its trade. Members that none of them knows are passed over, whatever their values are: only
their keys have to be texts.

## Main definitions

* `BookFeed.Feed.FrameRearranged` — a frame in another order, with further members of unknown
  keys.

## Main results

* `BookFeed.Feed.decode_eq_ok_iff_of_rearranged` — it decodes to the same.
* `BookFeed.Feed.malformed_of_illegible` — a frame with a key that is no text is malformed.
-/

namespace BookFeed.Feed

open Json

/-! ### Rearranged frames -/

/-- A member of a frame that stays as it is, or that holds an object with its members in another
order. -/
inductive PartRearranged (keys : Quoted → Prop) : Node × Node → Node × Node → Prop where
  /-- Any member, as it is. -/
  | same (m : Node × Node) : PartRearranged keys m m
  /-- The payload. -/
  | payload {q : Quoted} {v v' : Node} (hkey : q.text = .ok "data".toList)
      (h : Payload.record.Rearranged keys v v') : PartRearranged keys (.string q, v) (.string q, v')
  /-- Figures. -/
  | ticker {q : Quoted} {v v' : Node} (hkey : q.text = .ok "tickerdata".toList)
      (h : Ticker.record.Rearranged keys v v') : PartRearranged keys (.string q, v) (.string q, v')
  /-- A trade. -/
  | trade {q : Quoted} {v v' : Node} (hkey : q.text = .ok "tradedata".toList)
      (h : TradeReport.record.Rearranged keys v v') :
    PartRearranged keys (.string q, v) (.string q, v')

/-- A frame whose members come in another order, together with further members of unknown keys.
The objects in it may be rearranged as well. -/
inductive FrameRearranged (keys : Quoted → Prop) : Node → Node → Prop where
  /-- First the objects inside, then the frame itself. -/
  | mk {members inner : List (Node × Node)} {n' : Node}
      (hparts : List.Forall₂ (PartRearranged keys) members inner)
      (h : Frame.record.Rearranged keys (.object inner none) n') :
    FrameRearranged keys (.object members none) n'

/-! ### Decoding them -/

theorem alike_of_partRearranged {m m' : Node × Node} (h : PartRearranged Quoted.Legible m m')
    {cs : List Char} (hm' : m'.2.Spelt cs) : Frame.record.Alike m m' := by
  cases h with
  | same m => exact fun _ _ => Iff.rfl
  | payload hkey h => exact h.alike Payload.sound hm' rfl hkey
  | ticker hkey h => exact h.alike Ticker.sound hm' rfl hkey
  | trade hkey h => exact h.alike TradeReport.sound hm' rfl hkey

theorem alike_of_partsRearranged {members inner : List (Node × Node)}
    (h : List.Forall₂ (PartRearranged Quoted.Legible) members inner)
    (hspelt : ∀ m ∈ inner, ∃ cs, m.2.Spelt cs) :
    List.Forall₂ Frame.record.Alike members inner := by
  induction h with
  | nil => exact .nil
  | cons hm _ ih =>
    rw [List.forall_mem_cons] at hspelt
    obtain ⟨⟨cs, hcs⟩, hrest⟩ := hspelt
    exact .cons (alike_of_partRearranged hm hcs) (ih hrest)

/-- A frame and its rearrangements are read alike. -/
theorem frame_read_eq_ok_iff_of_rearranged {n n' : Node} (h : FrameRearranged Quoted.Legible n n')
    {cs : List Char} (hn' : n'.Spelt cs) {f : Frame} :
    Frame.record.read n' = .ok f ↔ Frame.record.read n = .ok f := by
  obtain ⟨hparts, h⟩ := h
  have halike := alike_of_partsRearranged hparts (h.exists_spelt hn')
  exact (h.read_eq_ok_iff Frame.sound hn').trans
    (Record.readObject_eq_ok_iff_of_alike halike).symm

/-- **The order of members and members of unknown keys do not matter.** Take a text that is a
frame, and another one that is the same frame with its members in any order and with further
members, whose keys are texts that are not known to it; its payload, its figures and its trade
may be changed in the same way. The one decodes to an event, or to none, just if the other one
does, and to the same.

**Proof sketch.** In an object that is read no field is given twice, so each field finds its
member wherever it stands, and what is passed over has no fault, as it is well-formed
(`Json.Record.Rearranged.read_eq_ok_iff`). So a member of the frame is read like the one it
comes from, and then the frame is. -/
theorem decode_eq_ok_iff_of_rearranged {text text' : String} {n n' : Node}
    (htext : n.Padded text.toList) (htext' : n'.Padded text'.toList)
    (h : FrameRearranged Quoted.Legible n n') (x : Option Inbound) :
    decode text' = .ok x ↔ decode text = .ok x := by
  obtain ⟨cs, hn'⟩ := Node.exists_spelt_of_padded htext'
  have hread (f : Frame) : Frame.record.read n' = .ok f ↔ Frame.record.read n = .ok f :=
    frame_read_eq_ok_iff_of_rearranged h hn'
  simp only [decode_eq htext, decode_eq htext', mapError_eq_ok_iff, map_eq_ok_iff, hread]

/-! ### A frame of figures -/

/-- The last price of a market and the market. -/
private def lastPrice : List (List Char × Value) :=
  [("s".toList, .ofString "SOL_USDC"), ("c".toList, .ofString "18.7")]

/-- The members of a frame of it. -/
private def lastPriceMembers : List (List Char × Value) :=
  [("stream".toList, .ofString "ticker@SOL_USDC"), ("tickerdata".toList, .object lastPrice)]

/-- The frame. -/
private def lastPriceFrame : Value := .object lastPriceMembers

/-- A member of another object. -/
private def strayStream : List Char × Value := ("stream".toList, .integer (-1))

/-- A member of another object, with a value that would not do there. -/
private def strayPrice : List Char × Value := ("c".toList, .object [("data".toList, .array [])])

/-- The same frame in reverse order, with a member in each object that is not known there. -/
private def reversedFrame : Value :=
  .object
    [strayPrice, ("tickerdata".toList, .object (strayStream :: lastPrice.reverse)),
     ("stream".toList, .ofString "ticker@SOL_USDC")]

/-- What the frame carries. -/
private def lastPriceEvent : Option Inbound :=
  some ⟨"ticker@SOL_USDC",
    .ticker { lastPrice := some ⟨187, 1, by decide, by decide⟩, symbol := some "SOL_USDC" }⟩

/-- Members that are known in one object are not known in another one. -/
theorem decode_eq_ok_iff_of_rearranged_ticker :
    FrameRearranged Quoted.Legible lastPriceFrame.node reversedFrame.node ∧
      decode reversedFrame.toText = .ok lastPriceEvent := by
  have hfigures : Ticker.record.Rearranged Quoted.Legible (Value.object lastPrice).node
      (Value.object (strayStream :: lastPrice.reverse)).node :=
    .mk (List.forall_mem_singleton.2 (Record.unknown_memberNode (by decide) _))
      (List.reverse_perm (Value.memberNodes (lastPrice ++ [strayStream])))
  have hframe : FrameRearranged Quoted.Legible lastPriceFrame.node reversedFrame.node :=
    .mk (.cons (.same _) (.cons (.ticker (Quoted.text_ofText _) hfigures) .nil))
      (.mk (List.forall_mem_singleton.2 (Record.unknown_memberNode (by decide) _))
        (List.reverse_perm [_, _, Value.memberNode strayPrice]))
  exact ⟨hframe, (decode_eq_ok_iff_of_rearranged lastPriceFrame.padded_toText
    reversedFrame.padded_toText hframe _).2 (by decide +kernel)⟩

/-! ### Keys that are no texts -/

/-- A frame with a key that is no text is malformed. -/
theorem malformed_of_illegible {text : String} {members : List (Node × Node)}
    (h : (Node.object members none).Padded text.toList) {q : Quoted} {v : Node}
    (hm : (.string q, v) ∈ members) (hq : ¬ q.Legible) :
    ∃ e, decode text = .error (.malformed e) := by
  rw [decode_eq h]
  cases hread : Frame.record.read (.object members none) with
  | error e => exact ⟨e, rfl⟩
  | ok f =>
    obtain ⟨q', heq, hq'⟩ := Record.legible_of_readObject Frame.sound hread _ hm
    exact absurd (Node.string.inj heq ▸ hq') hq

/-- The same frame with a further member, whose key is one half of a surrogate pair. -/
private def unpairedKeyFrame : Node :=
  .object ((.string ⟨[.unit 0xd800], none⟩, .null) :: Value.memberNodes lastPriceMembers) none

/-- Its text. -/
private def unpairedKeyText : String :=
  "\x7b\"\\ud800\":null,\"stream\":\"ticker@SOL_USDC\"," ++
    "\"tickerdata\":\x7b\"s\":\"SOL_USDC\",\"c\":\"18.7\"\x7d\x7d"

theorem padded_unpairedKeyText : unpairedKeyFrame.Padded unpairedKeyText.toList := by
  have hkey : PiecesSpelt [.unit 0xd800] ("\\ud800".toList ++ []) := .cons (.unit rfl) .nil
  have hmember :
      MemberSpelt (.string ⟨[.unit 0xd800], none⟩, .null) "\"\\ud800\":null".toList :=
    .mk Node.blank_nil hkey Node.blank_nil (Value.padded_of_spelt .null)
  exact Value.padded_of_spelt
    (.object (.cons hmember (Value.spelt_membersText lastPriceMembers (List.cons_ne_nil _ _))))

/-- A key that is no text is not the name of a field, but it is not passed over either. -/
theorem unpaired_key_refused :
    lastPriceFrame.node.Padded lastPriceFrame.toText.toList ∧
      unpairedKeyFrame.Padded unpairedKeyText.toList ∧
      FrameRearranged (fun _ => True) lastPriceFrame.node unpairedKeyFrame ∧
      decode lastPriceFrame.toText = .ok lastPriceEvent ∧
      decode unpairedKeyText = .error (.malformed .unpairedSurrogate) := by
  have hunknown :
      Frame.record.Unknown (fun _ => True) (.string ⟨[.unit 0xd800], none⟩, .null) :=
    .mk trivial fun _ _ _ _ => nofun
  have hframe : FrameRearranged (fun _ => True) lastPriceFrame.node unpairedKeyFrame :=
    .mk (List.forall₂_same.2 fun m _ => .same m)
      (.mk (List.forall_mem_singleton.2 hunknown) (List.perm_append_singleton _ _).symm)
  exact ⟨lastPriceFrame.padded_toText, padded_unpairedKeyText, hframe, by decide +kernel,
    by decide +kernel⟩

end BookFeed.Feed
