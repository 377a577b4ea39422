import BookFeed.Json.Decimals
import BookFeed.Proofs.Decimal.Written
import BookFeed.Proofs.Json.Members
import BookFeed.Proofs.Json.Spelling

set_option autoImplicit false

/-!
# Written values are read as themselves

The written form of a value is one of its spellings, so a reader of the text meets the value
that was written: the same strings, character by character, and integers with the same digits.

## Main definitions

* `BookFeed.Json.Value.node` — what scanning makes of a written value.
* `BookFeed.Json.Visible` — a text without control characters.

## Main results

* `BookFeed.Json.Value.spelt_text` — the written form is a spelling of the value.
* `BookFeed.Json.Value.visible_text` — it has no control characters.
* `BookFeed.Json.Reader.run_toText` — reading a written value.
* `BookFeed.Json.Record.read_object_of_sublist` — reading a record that is written with some
  of its fields.
-/

namespace BookFeed.Json

/-! ### Strings -/

/-- The piece that a character is written as. -/
def Piece.ofChar (c : Char) : Piece :=
  if c.toNat < 0x20 ∧ c ∉ ['\x08', '\x0c', '\n', '\r', '\t'] then .unit c.toNat else .char c

/-- A string as it is scanned from its written form. -/
def Quoted.ofText (cs : List Char) : Quoted := ⟨cs.map Piece.ofChar, none⟩

theorem hexValue?_hexDigit {n : Nat} (h : n < 0x20) :
    Quoted.hexValue? '0' '0' (hexDigit (n / 16)) (hexDigit (n % 16)) = some n := by
  have hall : ∀ n < 0x20,
      Quoted.hexValue? '0' '0' (hexDigit (n / 16)) (hexDigit (n % 16)) = some n := by decide
  exact hall n h

theorem Piece.spelt_escapeChar (c : Char) : (Piece.ofChar c).Spelt (escapeChar c) := by
  unfold escapeChar
  split_ifs with hquote hbackslash hb hf hn hr ht hlow
  · subst hquote; exact .short rfl
  · subst hbackslash; exact .short rfl
  · subst hb; exact .short rfl
  · subst hf; exact .short rfl
  · subst hn; exact .short rfl
  · subst hr; exact .short rfl
  · subst ht; exact .short rfl
  · rw [ofChar, if_pos (by simp [hlow, hb, hf, hn, hr, ht])]
    exact .unit (hexValue?_hexDigit hlow)
  · rw [ofChar, if_neg (by simp [hlow])]
    exact .plain (Nat.not_lt.1 hlow) hquote hbackslash

theorem piecesSpelt_flatMap (cs : List Char) :
    PiecesSpelt (cs.map Piece.ofChar) (cs.flatMap escapeChar) := by
  induction cs with
  | nil => exact .nil
  | cons c cs ih => exact .cons (Piece.spelt_escapeChar c) ih

theorem decodePieces_ofChar (cs : List Char) :
    Quoted.decodePieces none (cs.map Piece.ofChar) = .ok cs := by
  induction cs with
  | nil => rfl
  | cons c cs ih =>
    rw [List.map_cons, Piece.ofChar]
    by_cases h : c.toNat < 0x20 ∧ c ∉ ['\x08', '\x0c', '\n', '\r', '\t']
    · have hlow := h.1
      have htrailing : Quoted.isTrailing c.toNat = false := by simp [Quoted.isTrailing]; omega
      have hleading : Quoted.isLeading c.toNat = false := by simp [Quoted.isLeading]; omega
      rw [if_pos h, Quoted.decodePieces.eq_def]
      simp only [htrailing, hleading, ih, Char.ofNat_toNat, Bool.false_eq_true, if_false]
      rfl
    · rw [if_neg h, Quoted.decodePieces, ih]
      rfl

/-- A written string has the characters that were written. -/
theorem Quoted.text_ofText (cs : List Char) : (Quoted.ofText cs).text = .ok cs := by
  simp [Quoted.text, Quoted.decode, Quoted.ofText, decodePieces_ofChar, Except.mapError]

/-! ### Integers -/

/-- An integer as it is scanned from its written form. -/
def Numeral.ofInt (n : Int) : Numeral := ⟨decide (n < 0), Nat.toDigits 10 n.natAbs, [], none⟩

theorem digits_toDigits (n : Nat) : Digits (Nat.toDigits 10 n) where
  ne_nil := Nat.toDigits_ne_nil
  isDigit c hc := by
    obtain ⟨h₁, h₂⟩ := Decimal.isDigit_iff.1 (Decimal.isDigit_toDigits hc)
    simp only [Numeral.isDigit, Bool.and_eq_true, decide_eq_true_eq]
    exact ⟨h₁, h₂⟩

theorem Numeral.spelt_integerText (n : Int) : (Numeral.ofInt n).Spelt (Value.integerText n) := by
  have h := @Numeral.Spelt.mk (decide (n < 0)) _ _ _ _ _ (digits_toDigits n.natAbs)
    Decimal.toDigits_of_head? .absent .absent
  simp only [List.append_nil, decide_eq_true_eq] at h
  unfold Value.integerText
  split <;> simpa [*, Numeral.ofInt] using h

/-- Digits are collected as long as their number stays below the bound. -/
theorem Numeral.collect_eq {cs : List Char} {start : Nat}
    (h : Nat.ofDigitChars 10 cs start < collectBound) :
    collect start cs = (Nat.ofDigitChars 10 cs start, []) := by
  induction cs generalizing start with
  | nil => rfl
  | cons c cs ih =>
    rw [Nat.ofDigitChars_cons] at h ⊢
    have hstart : start * 10 + digitValue c = 10 * start + (c.toNat - '0'.toNat) := by
      rw [digitValue, Nat.mul_comm]
    rw [collect, hstart, if_pos (Nat.lt_of_le_of_lt (Decimal.le_ofDigitChars cs _) h), ih h]

theorem Numeral.collect_toDigits {n : Nat} (h : n < collectBound) :
    collect 0 (Nat.toDigits 10 n) = (n, []) := by
  rw [collect_eq (by rwa [Nat.ofDigitChars_ten_toDigits]), Nat.ofDigitChars_ten_toDigits]

theorem Numeral.value?_ofInt_natural {n : Nat} (h : n < 18446744073709551616) :
    (Numeral.ofInt n).value? = some (.natural n) := by
  have hneg : ¬ (n : Int) < 0 := by omega
  simp [value?, ofInt, collect_toDigits h, hneg]

theorem Numeral.value?_ofInt_negative {n : Int} (h : n < 0) (hmin : -9223372036854775808 ≤ n) :
    (Numeral.ofInt n).value? = some (.negative n) := by
  have hlt : n.natAbs < collectBound := by unfold collectBound; omega
  have hrange : 0 < n.natAbs ∧ n.natAbs ≤ 9223372036854775808 := by omega
  have hneg : -(n.natAbs : Int) = n := by omega
  simp only [value?, ofInt, collect_toDigits hlt, h, decide_true, if_true, if_pos hrange, hneg]

/-! ### Values -/

namespace Value

mutual

/-- What scanning makes of a written value. -/
def node : Value → Node
  | .null => .null
  | .bool b => .bool b
  | .integer n => .number (.ofInt n)
  | .string cs => .string (.ofText cs)
  | .array items => .array (nodes items) none
  | .object members => .object (memberNodes members) none

/-- What scanning makes of elements. -/
def nodes : List Value → List Node
  | [] => []
  | v :: vs => v.node :: nodes vs

/-- What scanning makes of members. -/
def memberNodes : List (List Char × Value) → List (Node × Node)
  | [] => []
  | m :: ms => memberNode m :: memberNodes ms

/-- What scanning makes of a member. -/
def memberNode : List Char × Value → Node × Node
  | (key, v) => (.string (.ofText key), v.node)

end

theorem nodes_eq_map (items : List Value) : nodes items = items.map node := by
  induction items with
  | nil => rfl
  | cons v vs ih => rw [nodes, List.map_cons, ih]

theorem padded_of_spelt {n : Node} {cs : List Char} (h : n.Spelt cs) : n.Padded cs := by
  simpa using Node.Padded.mk Node.blank_nil h Node.blank_nil

theorem spelt_string (cs : List Char) : (Node.string (.ofText cs)).Spelt (escape cs) :=
  .string (piecesSpelt_flatMap cs)

theorem spelt_member {key cs : List Char} {n : Node} (h : n.Spelt cs) :
    MemberSpelt (.string (.ofText key), n) (escape key ++ ':' :: cs) := by
  simpa [escape, Quoted.ofText] using
    MemberSpelt.mk Node.blank_nil (piecesSpelt_flatMap key) Node.blank_nil
    (padded_of_spelt h)

mutual

/-- The written form of a value is one of its spellings. -/
theorem spelt_text : (v : Value) → v.node.Spelt v.text
  | .null => .null
  | .bool true => .true
  | .bool false => .false
  | .integer n => .number (Numeral.spelt_integerText n)
  | .string cs => spelt_string cs
  | .array [] => .emptyArray Node.blank_nil
  | .array (v :: vs) => .array (spelt_itemsText (v :: vs) (List.cons_ne_nil v vs))
  | .object [] => .emptyObject Node.blank_nil
  | .object (m :: ms) => .object (spelt_membersText (m :: ms) (List.cons_ne_nil m ms))

/-- The written form of elements is one of their spellings. -/
theorem spelt_itemsText : (items : List Value) → items ≠ [] →
    ItemsSpelt (nodes items) (itemsText items)
  | [v], _ => .last (padded_of_spelt (spelt_text v))
  | v :: w :: vs, _ =>
    .cons (padded_of_spelt (spelt_text v)) (spelt_itemsText (w :: vs) (List.cons_ne_nil w vs))

/-- The written form of members is one of their spellings. -/
theorem spelt_membersText : (members : List (List Char × Value)) → members ≠ [] →
    MembersSpelt (memberNodes members) (membersText members)
  | [m], _ => .last (spelt_memberText m)
  | m :: k :: ms, _ =>
    .cons (spelt_memberText m) (spelt_membersText (k :: ms) (List.cons_ne_nil k ms))

/-- The written form of a member is one of its spellings. -/
theorem spelt_memberText : (m : List Char × Value) → MemberSpelt (memberNode m) (memberText m)
  | (_, v) => spelt_member (spelt_text v)

end

end Value

/-! ### No control characters -/

/-- A text without control characters. -/
def Visible (cs : List Char) : Prop := ∀ c ∈ cs, 0x20 ≤ c.toNat

instance : DecidablePred Visible :=
  fun cs => List.decidableBAll (fun c : Char => 0x20 ≤ c.toNat) cs

theorem visible_cons {c : Char} {cs : List Char} :
    Visible (c :: cs) ↔ 0x20 ≤ c.toNat ∧ Visible cs := List.forall_mem_cons

theorem visible_append {cs ds : List Char} :
    Visible (cs ++ ds) ↔ Visible cs ∧ Visible ds := List.forall_mem_append

theorem visible_hexDigit {n : Nat} (h : n < 16) : 0x20 ≤ (hexDigit n).toNat := by
  have hall : ∀ n < 16, 0x20 ≤ (hexDigit n).toNat := by decide
  exact hall n h

theorem visible_escapeChar (c : Char) : Visible (escapeChar c) := by
  unfold escapeChar
  split_ifs with hquote hbackslash hb hf hn hr ht hlow
  -- a quote, a backslash and the five short escapes
  iterate 7 decide
  · have hhigh := visible_hexDigit (show c.toNat / 16 < 16 by omega)
    have hlast := visible_hexDigit (show c.toNat % 16 < 16 by omega)
    simp [Visible, hhigh, hlast]
  · exact visible_cons.2 ⟨Nat.not_lt.1 hlow, by decide⟩

theorem visible_escape (cs : List Char) : Visible (escape cs) := by
  refine visible_cons.2 ⟨by decide, visible_append.2 ⟨fun c hc => ?_, by decide⟩⟩
  obtain ⟨d, -, hcd⟩ := List.mem_flatMap.1 hc
  exact visible_escapeChar d c hcd

theorem visible_digits {cs : List Char} (h : Digits cs) : Visible cs := by
  intro c hc
  have hdigit := h.isDigit c hc
  simp only [Numeral.isDigit, Bool.and_eq_true, decide_eq_true_eq] at hdigit
  exact Nat.le_trans (by decide : 0x20 ≤ '0'.toNat) hdigit.1

theorem Value.visible_integerText (n : Int) : Visible (integerText n) := by
  have hdigits := visible_digits (digits_toDigits n.natAbs)
  unfold integerText
  split
  · exact visible_cons.2 ⟨by decide, hdigits⟩
  · exact hdigits

namespace Value

mutual

/-- A value is written without control characters. -/
theorem visible_text : (v : Value) → Visible v.text
  | .null => by decide
  | .bool true => by decide
  | .bool false => by decide
  | .integer n => visible_integerText n
  | .string cs => visible_escape cs
  | .array items =>
    visible_cons.2 ⟨by decide, visible_append.2 ⟨visible_itemsText items, by decide⟩⟩
  | .object members =>
    visible_cons.2 ⟨by decide, visible_append.2 ⟨visible_membersText members, by decide⟩⟩

/-- Elements are written without control characters. -/
theorem visible_itemsText : (items : List Value) → Visible (itemsText items)
  | [] => by decide
  | [v] => visible_text v
  | v :: w :: vs =>
    visible_append.2
      ⟨visible_text v, visible_cons.2 ⟨by decide, visible_itemsText (w :: vs)⟩⟩

/-- Members are written without control characters. -/
theorem visible_membersText :
    (members : List (List Char × Value)) → Visible (membersText members)
  | [] => by decide
  | [m] => visible_memberText m
  | m :: k :: ms =>
    visible_append.2
      ⟨visible_memberText m, visible_cons.2 ⟨by decide, visible_membersText (k :: ms)⟩⟩

/-- A member is written without control characters. -/
theorem visible_memberText : (m : List Char × Value) → Visible (memberText m)
  | (key, v) =>
    visible_append.2 ⟨visible_escape key, visible_cons.2 ⟨by decide, visible_text v⟩⟩

end

end Value

/-! ### Reading written texts -/

/-- A reader of a text reads the value that the text is a spelling of. -/
theorem Reader.run_of_padded {α : Type} (read : Reader α) {n : Node} {text : String}
    (h : n.Padded text.toList) : Reader.run read text = read n := by
  simp only [Reader.run, Document.scan_of_padded h]
  cases read n <;> rfl

theorem Value.padded_toText (v : Value) : v.node.Padded v.toText.toList := by
  rw [toText, String.toList_ofList]
  exact padded_of_spelt v.spelt_text

/-- **Written values are read as themselves.** -/
theorem Reader.run_toText {α : Type} (read : Reader α) (v : Value) :
    Reader.run read v.toText = read v.node :=
  run_of_padded read v.padded_toText

/-! ### Readers -/

namespace Reader

theorem string_ofString (s : String) : Reader.string (Value.ofString s).node = .ok s := by
  simp [Value.ofString, Value.node, Reader.string, Quoted.text_ofText, Except.map]

theorem natural_node {n : Nat} (h : n < 18446744073709551616) :
    Reader.natural (Value.integer n).node = .ok n := by
  rw [Value.node, Reader.natural, Numeral.value, Numeral.value?_ofInt_natural h]
  rfl

theorem integer_node {n : Int} (hmin : -9223372036854775808 ≤ n)
    (hmax : n < 9223372036854775808) :
    Reader.integer (Value.integer n).node = .ok n := by
  rcases Int.lt_or_le n 0 with hneg | hpos
  · rw [Value.node, Reader.integer, Numeral.value, Numeral.value?_ofInt_negative hneg hmin]
    rfl
  · obtain ⟨k, rfl⟩ := Int.eq_ofNat_of_zero_le hpos
    have hk : k < 9223372036854775808 := by omega
    rw [Value.node, Reader.integer, Numeral.value,
      Numeral.value?_ofInt_natural (Nat.lt_trans hk (by decide))]
    exact if_pos hk

theorem decimal_ofDecimal (d : Decimal) : Reader.decimal (Value.ofDecimal d).node = .ok d := by
  simp [Value.ofDecimal, Value.node, Reader.decimal, Quoted.text_ofText, decimalText,
    Decimal.read_text, bind, Except.bind]

/-- What may be absent is read back if it is when it is there, and is not taken for absent. -/
theorem optional_ofOption {α : Type} {read : Reader α} {write : α → Value} {x : Option α}
    (h : ∀ a ∈ x, read (write a).node = .ok a ∧ (write a).node ≠ .null) :
    Reader.optional read (Value.ofOption write x).node = .ok x := by
  cases x with
  | none => rfl
  | some a =>
    obtain ⟨hread, hnull⟩ := h a rfl
    rw [Value.ofOption]
    unfold Reader.optional
    split
    · next heq => exact absurd heq hnull
    · rw [hread]
      rfl

theorem list_node {α : Type} {read : Reader α} {write : α → Value}
    (h : ∀ a, read (write a).node = .ok a) (as : List α) :
    Reader.list read (Value.array (as.map write)).node = .ok as := by
  have hmap : (as.map fun a => (write a).node).mapM read = .ok as := by
    induction as with
    | nil => rfl
    | cons a as ih =>
      rw [List.map_cons, List.mapM_cons, h, ih]
      rfl
  simp only [Value.node, Value.nodes_eq_map, List.map_map, Function.comp_def, Reader.list, hmap]
  rfl

end Reader

/-! ### Records -/

/-- The keys and values of a written object. -/
def Value.entries (members : List (List Char × Value)) : List (String × Node) :=
  members.map fun m => (String.ofList m.1, m.2.node)

theorem Value.keyed_entries (members : List (List Char × Value)) :
    Keyed (memberNodes members) (entries members) := by
  induction members with
  | nil => exact .nil
  | cons m ms ih =>
    obtain ⟨key, v⟩ := m
    exact .cons ⟨.ofText key, rfl, by rw [String.toList_ofList, Quoted.text_ofText]⟩ ih

namespace Record

variable {σ : Type} {r : Record σ} {ms : List (String × Node)}

theorem sublist_names (fs : List (Member σ)) :
    (fs.map Member.name).Sublist (fs.flatMap Member.names) := by
  induction fs with
  | nil => exact .slnil
  | cons f fs ih => exact .cons_cons f.name (ih.trans (List.sublist_append_right f.aliases _))

theorem Sound.exists_of_names (hr : r.Sound)
    (h : (ms.map Prod.fst).Sublist (r.fields.map Member.name)) {m : String × Node}
    (hm : m ∈ ms) :
    ∃ f ∈ r.fields, f.name = m.1 ∧ r.field? m.1 = some f := by
  have hname : m.1 ∈ r.fields.map Member.name := h.subset (List.mem_map_of_mem hm)
  obtain ⟨f, hf, hfm⟩ := List.mem_map.1 hname
  exact ⟨f, hf, hfm, hr.field?_eq_some hf (hfm ▸ answersTo_name f)⟩

theorem Sound.nodup_names (hr : r.Sound) : (r.fields.map Member.name).Nodup :=
  hr.nodup.sublist (sublist_names r.fields)

/-- Members with names of fields, each at most once. -/
theorem Sound.distinct_of_names (hr : r.Sound)
    (h : (ms.map Prod.fst).Sublist (r.fields.map Member.name)) : r.Distinct ms := by
  have hnodup : (ms.map Prod.fst).Nodup := hr.nodup_names.sublist h
  refine (List.pairwise_map.1 hnodup).imp_of_mem fun hm hk hne f hf hanswers => ?_
  obtain ⟨g, hg, hgm, -⟩ := hr.exists_of_names h hm
  obtain ⟨g', hg', hgk, -⟩ := hr.exists_of_names h hk
  refine Bool.eq_false_iff.2 fun hanswers' => hne ?_
  rw [← hgm] at hanswers
  rw [← hgk] at hanswers'
  rw [← hgm, ← hgk, ← hr.eq_of_answersTo hf hg hanswers (answersTo_name g),
    ← hr.eq_of_answersTo hf hg' hanswers' (answersTo_name g')]

/-- A record is read from an object that is written with some of its fields, in their order. -/
theorem read_object_of_sublist (hr : r.Sound) {members : List (List Char × Value)} {s : σ}
    (hnames : ((Value.entries members).map Prod.fst).Sublist (r.fields.map Member.name))
    (htakes : ∀ f ∈ r.fields, f.Takes (f.given (Value.entries members)))
    (hs : r.filled (Value.entries members) r.initial = s) :
    r.read (Value.object members).node = .ok s := by
  refine (r.readObject_eq_ok_iff hr (Value.keyed_entries members)
    (hr.distinct_of_names hnames)).2 ⟨fun m hm hnone => ?_, htakes, hs⟩
  obtain ⟨f, -, -, hf⟩ := hr.exists_of_names hnames hm
  rw [hf] at hnone
  cases hnone

/-- A record is read from an object that is written with all its fields. -/
theorem read_object (hr : r.Sound) {members : List (List Char × Value)} {s : σ}
    (hnames : (Value.entries members).map Prod.fst = r.fields.map Member.name)
    (htakes : ∀ f ∈ r.fields, f.Takes (f.given (Value.entries members)))
    (hs : r.filled (Value.entries members) r.initial = s) :
    r.read (Value.object members).node = .ok s :=
  read_object_of_sublist hr (hnames ▸ .refl _) htakes hs

end Record

end BookFeed.Json
