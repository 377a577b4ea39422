import BookFeed.Proofs.Decimal.Order
import BookFeed.Proofs.Json.Kept
import BookFeed.Proofs.Seed.Order

set_option autoImplicit false

/-!
# Two forms of a list of trades

A server may send trades in an array or in an object with such an array as its member `trades`,
beside other members. Both forms give the same list, or neither gives one. The object is kept as
a whole before anything is read from it, so this needs other members that can be kept: their
numbers have to be in range, and their strings have to be texts, also where nobody reads them.

## Main definitions

* `BookFeed.Seed.Trade.Wraps` — an object with a list of trades in it.

## Main results

* `BookFeed.Seed.Trade.read_agree` — a trade is read alike in both forms.
* `BookFeed.Seed.Trade.readList_wrapped` — so is a list.
* `BookFeed.Seed.Trade.most_recent_first` — the order of both.
-/

namespace BookFeed.Seed

open Json

/-! ### A trade at another depth -/

/-- A time is no container, so that the depth does not matter. -/
theorem Timestamp.read_agree (depth depth' : Nat) :
    Reader.Agree (Timestamp.read depth) (Timestamp.read depth') := by
  intro n t
  rw [Timestamp.read, Timestamp.read, Reader.firstOf_eq_ok_iff, Reader.firstOf_eq_ok_iff]
  refine and_congr_left fun hshape => and_congr_right fun _ => ?_
  have hscalar : n.nesting = 0 := by
    cases n with
    | array items fault => cases hshape
    | object members fault => cases hshape
    | _ => rfl
  exact iff_of_true (.inl hscalar) (.inl hscalar)

namespace Trade

theorem record_agree (depth depth' : Nat) :
    List.Forall₂ Member.Agree (record depth).fields (record depth').fields := by
  have htime := (Timestamp.read_agree (depth + 1) (depth' + 1)).optional
  exact .cons (.refl _) (.cons (.refl _) (.cons (.refl _)
    (.cons (Member.agree_of htime "timestamp" _) (.cons (.refl _) (.cons (.refl _) .nil)))))

/-- A trade is read alike wherever it stands. -/
theorem read_agree (depth depth' : Nat) : Reader.Agree (read depth) (read depth') :=
  Record.agree rfl (record_agree depth depth')

/-! ### A list in both forms -/

theorem wrapper_sound : wrapper.Sound where
  nodup := by decide
  commutes := List.pairwise_singleton _ _

/-- An object that has a list as its member `trades`, beside members of other keys without
faults and with numbers in range. `strings` says which strings there may be in those. -/
inductive Wraps (strings : Quoted → Prop) (list : Node) : Node → Prop where
  /-- Other members before and behind the list. -/
  | mk {q : Quoted} {before after : List (Node × Node)} (hkey : q.text = .ok "trades".toList)
      (hothers : ∀ m ∈ before ++ after, wrapper.Unknown strings m ∧
        Node.MemberClean strings m) :
    Wraps strings list (.object (before ++ (.string q, list) :: after) none)

theorem readList_array_eq_ok_iff {items : List Node} {ts : List Trade} :
    readList (.array items none) = .ok ts ↔
      ((Node.array items none).Clean Quoted.Legible ∧
        Reader.Fits 0 (Node.array items none).nesting) ∧
        Reader.list (read 1) (.array items none) = .ok ts := by
  have hshapes : ([readWrapped, Reader.list (read 1)].findSome? fun read =>
      (read (.array items none)).toOption) =
        (Reader.list (read 1) (.array items none)).toOption := by
    rw [List.findSome?_cons, List.findSome?_cons, List.findSome?_nil]
    cases Reader.list (read 1) (.array items none) <;> rfl
  rw [readList, Reader.firstOf_eq_ok_iff, hshapes, toOption_eq_some_iff]

theorem readList_object_eq_ok_iff {members : List (Node × Node)} {ts : List Trade} :
    readList (.object members none) = .ok ts ↔
      ((Node.object members none).Clean Quoted.Legible ∧
        Reader.Fits 0 (Node.object members none).nesting) ∧
          wrapper.readObject members none = .ok ts := by
  have hshapes : ([readWrapped, Reader.list (read 1)].findSome? fun read =>
      (read (.object members none)).toOption) = (wrapper.readObject members none).toOption := by
    rw [List.findSome?_cons, List.findSome?_cons, List.findSome?_nil, readWrapped]
    cases wrapper.readObject members none <;> rfl
  rw [readList, Reader.firstOf_eq_ok_iff, hshapes, toOption_eq_some_iff]

/-- An object without other members is read as the list in it. -/
theorem readObject_singleton {q : Quoted} (hkey : q.text = .ok "trades".toList) (n : Node)
    (ts : List Trade) :
    wrapper.readObject [(.string q, n)] none = .ok ts ↔ Reader.list (read 2) n = .ok ts := by
  have hkeyed : Keyed [(.string q, n)] [("trades", n)] := .cons ⟨q, rfl, hkey⟩ .nil
  rw [Record.readObject_eq_ok_iff wrapper_sound hkeyed (List.pairwise_singleton _ _)]
  cases hread : Reader.list (read 2) n <;>
    simp [wrapper, Record.field?, Record.filled, Member.given, Member.answersTo, Member.demanded,
      Member.of, Member.Takes, Member.fill, hread, Except.map]

/-- An object can be kept just if the list in it can. -/
theorem clean_wraps {strings : Quoted → Prop} {q : Quoted} {n : Node}
    {before after : List (Node × Node)} (hkey : strings q)
    (hothers : ∀ m ∈ before ++ after, Node.MemberClean strings m) :
    (Node.object (before ++ (.string q, n) :: after) none).Clean strings ↔ n.Clean strings := by
  have hlist : Node.MemberClean strings (.string q, n) ↔ n.Clean strings := by
    rw [Node.MemberClean, and_iff_right hkey]
  rw [Node.Clean, and_iff_left rfl, Node.membersClean_iff, ← hlist]
  refine ⟨fun h => h _ (by simp), fun h m hm => ?_⟩
  rcases List.mem_append.1 hm with hm | hm
  · exact hothers m (List.mem_append_left _ hm)
  · rcases List.mem_cons.1 hm with rfl | hm
    · exact h
    · exact hothers m (List.mem_append_right _ hm)

/-- **Both forms give the same list.** Take an object that has an array as its member `trades`,
beside members of other keys whose numbers are in range and whose strings are texts. If there is
room for the containers of the object, it is read as a list of trades just if the array is, and
as the same list. -/
theorem readList_wraps {items : List Node} {n' : Node} {cs : List Char}
    (h : Wraps Quoted.Legible (.array items none) n') (hspelt : n'.Spelt cs)
    (hnesting : n'.nesting < Reader.depthLimit) (ts : List Trade) :
    readList n' = .ok ts ↔ readList (.array items none) = .ok ts := by
  obtain @⟨q, before, after, hkey, hothers⟩ := h
  have hread : wrapper.readObject (before ++ (.string q, .array items none) :: after) none =
      .ok ts ↔
      Reader.list (read 1) (.array items none) = .ok ts := by
    have hrearranged :
        wrapper.Rearranged Quoted.Legible (.object [(.string q, .array items none)] none)
        (.object (before ++ (.string q, .array items none) :: after) none) :=
      .mk (fun m hm => (hothers m hm).1) List.perm_middle
    calc
      _ ↔ wrapper.readObject [(.string q, .array items none)] none = .ok ts :=
        hrearranged.read_eq_ok_iff wrapper_sound hspelt
      _ ↔ Reader.list (read 2) (.array items none) = .ok ts := readObject_singleton hkey _ ts
      _ ↔ Reader.list (read 1) (.array items none) = .ok ts := (read_agree 2 1).list _ ts
  have hclean : (Node.object (before ++ (.string q, .array items none) :: after) none).Clean
      Quoted.Legible ↔ (Node.array items none).Clean Quoted.Legible :=
    clean_wraps ⟨_, hkey⟩ fun m hm => (hothers m hm).2
  -- where there is room for the object there is room for what is inside of it
  have hinner : (Node.array items none).nesting ≤
      Node.nestingMembers (before ++ (.string q, .array items none) :: after) :=
    Node.nesting_le_of_mem (m := (Node.string q, Node.array items none)) (by simp)
  rw [Node.nesting] at hnesting
  have hroom : Reader.Fits 0 (Node.array items none).nesting := .inr (by omega)
  have hroom' : Reader.Fits 0
      (Node.object (before ++ (.string q, .array items none) :: after) none).nesting :=
    .inr (by rw [Node.nesting]; omega)
  rw [readList_object_eq_ok_iff, readList_array_eq_ok_iff, hclean, hread, and_iff_left hroom,
    and_iff_left hroom']

/-- **The most recent trade comes first, in both forms.** Putting trades in order keeps all of
them. First come those whose time is understood, the later ones before the earlier ones, and as
the server gave them where the times are the same; the others follow as the server gave them. If
a text is an array, and another one is an object that has this array as its member `trades`,
beside members of other keys whose numbers are in range and whose strings are texts, then both
give the same list in this order, or neither gives one, as long as there is room for the
containers of the object.

**Proof sketch.** The order is that of sorting by a total order in which a time that is not
understood comes last (`exists_timed`). What is read from the object is read from the array in
it, at another depth, which makes no difference to a trade (`readList_wraps`). -/
theorem most_recent_first :
    (∀ ts : List Trade, (recentFirst ts).Perm ts ∧
      ∃ timed, recentFirst ts = timed ++ ts.filter (·.millis? = none) ∧
        InTime Trade.millis? (· ≥ ·) ts timed) ∧
    ∀ (text text' : String) (items : List Node) (n' : Node),
      (Node.array items none).Padded text.toList →
      n'.Padded text'.toList → Wraps Quoted.Legible (.array items none) n' →
      n'.nesting < Reader.depthLimit →
        ∀ ts, (Reader.run readList text').map recentFirst = .ok ts ↔
        (Reader.run readList text).map recentFirst = .ok ts := by
  refine ⟨fun ts => ⟨List.mergeSort_perm _ _, exists_timed ts⟩, ?_⟩
  intro text text' items n' htext htext' h hnesting ts
  obtain ⟨cs, hspelt⟩ := Node.exists_spelt_of_padded htext'
  simp only [Reader.run_of_padded _ htext, Reader.run_of_padded _ htext', map_eq_ok_iff,
    readList_wraps h hspelt hnesting]

/-- A trade. -/
private def earlyTrade : Trade := { price := .orZero 5 0, timestamp := some (.millis 1000) }

/-- A later one, with a time in another form. -/
private def lateTrade : Trade :=
  { price := .orZero 7 0, timestamp := some (.text "1970-01-01T00:00:02Z") }

/-- An array of both. -/
private def tradesArray : Value := .array [earlyTrade.value, lateTrade.value]

/-- The array in an object that says how many trades there are. -/
private def tradesObject : Value :=
  .object [("count".toList, .integer 2), ("trades".toList, tradesArray)]

/-- The later trade comes first in both forms. -/
theorem most_recent_first_two :
    Wraps Quoted.Legible tradesArray.node tradesObject.node ∧
      (Reader.run readList tradesArray.toText).map recentFirst = .ok [lateTrade, earlyTrade] ∧
      (Reader.run readList tradesObject.toText).map recentFirst = .ok [lateTrade, earlyTrade] := by
  have hothers : ∀ m ∈ [Value.memberNode ("count".toList, .integer 2)] ++ [],
      wrapper.Unknown Quoted.Legible m ∧ Node.MemberClean Quoted.Legible m :=
    List.forall_mem_singleton.2
      ⟨Record.unknown_memberNode (by decide) _, ⟨_, Quoted.text_ofText _⟩, _, rfl⟩
  have hwraps : Wraps Quoted.Legible tradesArray.node tradesObject.node :=
    .mk (Quoted.text_ofText _) hothers
  have hread : (Reader.run readList tradesArray.toText).map recentFirst =
      .ok [lateTrade, earlyTrade] := by
    have hlist : Reader.run readList tradesArray.toText = .ok [earlyTrade, lateTrade] :=
      (Reader.run_toText readList tradesArray).trans (toOption_eq_some_iff.1 (by decide +kernel))
    have hlater : notAfter earlyTrade lateTrade = false := by decide +kernel
    have horder : recentFirst [earlyTrade, lateTrade] = [lateTrade, earlyTrade] := by
      simp [recentFirst, List.mergeSort, hlater]
    rw [hlist, Except.map, horder]
  exact ⟨hwraps, hread,
    (most_recent_first.2 _ _ _ _ tradesArray.padded_toText tradesObject.padded_toText
    hwraps (by decide) _).2 hread⟩

/-! ### Strings that are no texts -/

/-- An empty list in an object with a note that is one half of a surrogate pair. -/
private def unpairedNote : Node :=
  .object [(.string (.ofText "trades".toList), .array [] none),
    (.string (.ofText "note".toList), .string ⟨[.unit 0xd800], none⟩)] none

/-- Its text. -/
private def unpairedNoteText : String := "\x7b\"trades\":[],\"note\":\"\\ud800\"\x7d"

/-- A note that is no text is not passed over, although nobody reads it. -/
theorem unpaired_note_refused :
    (Node.array [] none).Padded "[]".toList ∧ unpairedNote.Padded unpairedNoteText.toList ∧
      Wraps (fun _ => True) (.array [] none) unpairedNote ∧ unpairedNote.nesting < 100 ∧
      (Reader.run readList "[]").map recentFirst = .ok [] ∧
      (Reader.run readList unpairedNoteText).map recentFirst = .error .unpairedSurrogate := by
  have hunknown : wrapper.Unknown (fun _ => True)
      (.string (.ofText "note".toList), .string ⟨[.unit 0xd800], none⟩) := by
    refine .mk trivial fun f hf name hname heq => ?_
    obtain rfl := List.mem_singleton.1 hf
    obtain rfl := List.mem_singleton.1 hname
    rw [Quoted.text_ofText] at heq
    exact absurd (Except.ok.inj heq) (by decide)
  have hnote : (Node.string ⟨[.unit 0xd800], none⟩).Spelt "\"\\ud800\"".toList :=
    .string (.cons (.unit rfl) .nil)
  have hpadded : unpairedNote.Padded unpairedNoteText.toList :=
    Value.padded_of_spelt (.object (.cons (Value.spelt_member (.emptyArray Node.blank_nil))
      (.last (Value.spelt_member hnote))))
  have hempty : (Node.array [] none).Padded "[]".toList :=
    Value.padded_of_spelt (.emptyArray Node.blank_nil)
  have hread : Reader.run readList "[]" = .ok [] := toOption_eq_some_iff.1 (by decide +kernel)
  have hwraps : Wraps (fun _ => True) (.array [] none) unpairedNote :=
    @Wraps.mk _ _ _ [] _ (Quoted.text_ofText _)
      (List.forall_mem_singleton.2 ⟨hunknown, trivial, trivial⟩)
  refine ⟨hempty, hpadded, hwraps, by decide, ?_, ?_⟩
  · rw [hread, Except.map, recentFirst, List.mergeSort_nil]
  · rw [Reader.run_of_padded _ hpadded]
    rfl

end Trade

end BookFeed.Seed
