import BookFeed.Proofs.Json.Members
import BookFeed.Proofs.Json.Written
import Mathlib.Data.List.Perm.Basic

set_option autoImplicit false

/-!
# Objects in another order

What is read from an object does not depend on the order of its members, and members of unknown
keys change nothing, whatever their values are. So an object may be put into another order and
may be given further members: a record is read from it just if it was before, and it is the same
record.

Keys are looked at in full before they are passed over. From an object with a key that is no
text, because half of a surrogate pair stands alone in it, nothing is read.

## Main definitions

* `BookFeed.Json.Record.Reads` — the members of an object from which a record is read.
* `BookFeed.Json.Record.Unknown` — a member that no field answers to.
* `BookFeed.Json.Record.Rearranged` — an object in another order with further members of
  unknown keys.

## Main results

* `BookFeed.Json.Record.readObject_eq_ok_iff_reads` — when a record is read from an object.
* `BookFeed.Json.Record.legible_of_readObject` — not if one of its keys is no text.
* `BookFeed.Json.Record.Rearranged.read_eq_ok_iff` — rearranged objects are read alike.
-/

namespace BookFeed.Json

variable {σ : Type}

/-- Whether a string is a text. -/
def Quoted.Legible (q : Quoted) : Prop := ∃ cs, q.text = .ok cs

theorem map_eq_ok_iff {ε α β : Type} {x : Except ε α} {f : α → β} {b : β} :
    x.map f = .ok b ↔ ∃ a, x = .ok a ∧ f a = b := by
  cases x <;> simp [Except.map]

theorem bind_eq_ok_iff {ε α β : Type} {x : Except ε α} {f : α → Except ε β} {b : β} :
    x >>= f = .ok b ↔ ∃ a, x = .ok a ∧ f a = .ok b := by
  cases x <;> simp [bind, Except.bind]

theorem toOption_eq_some_iff {ε α : Type} {x : Except ε α} {a : α} :
    x.toOption = some a ↔ x = .ok a := by
  cases x <;> simp [Except.toOption]

theorem mapError_eq_ok_iff {ε ε' α : Type} {x : Except ε α} {f : ε → ε'} {a : α} :
    x.mapError f = .ok a ↔ x = .ok a := by
  cases x <;> simp [Except.mapError]

/-- A member has one key. -/
theorem Keyed.unique {members : List (Node × Node)} {ms ks : List (String × Node)}
    (h : Keyed members ms) (h' : Keyed members ks) : ms = ks := by
  refine List.right_unique_forall₂' ?_ h h'
  rintro m ⟨key, v⟩ ⟨key', v'⟩ ⟨q, rfl, hkey⟩ ⟨q', heq, hkey'⟩
  obtain ⟨hq, hv⟩ := Prod.mk.inj heq
  rw [← Node.string.inj hq] at hkey'
  exact Prod.ext (String.toList_inj.1 (Except.ok.inj (hkey.symm.trans hkey'))) hv

theorem Keyed.legible {members : List (Node × Node)} {ms : List (String × Node)}
    (h : Keyed members ms) : ∀ m ∈ members, ∃ q, m.1 = .string q ∧ q.Legible := by
  induction h with
  | nil => simp
  | cons hm _ ih =>
    obtain ⟨q, rfl, hkey⟩ := hm
    exact List.forall_mem_cons.2 ⟨⟨q, rfl, _, hkey⟩, ih⟩

namespace Record

variable {r : Record σ} {ms : List (String × Node)}

/-! ### When a record is read from an object -/

theorem exists_string_of_readMember {p p' : Progress σ} {m : Node × Node}
    (h : r.readMember p m = .ok p') : ∃ q, m.1 = .string q := by
  obtain ⟨k, v⟩ := m
  cases k <;> simp [readMember] at h ⊢

/-- Members that are read have texts for keys, and no field answers to two of them. -/
theorem exists_keyed_of_foldlM (hr : r.Sound) {members : List (Node × Node)} {p p' : Progress σ}
    (h : members.foldlM r.readMember p = .ok p') :
    ∃ ms, Keyed members ms ∧ r.Distinct ms ∧
      ∀ f ∈ r.fields, f.name ∈ p.seen → f.given ms = none := by
  induction members generalizing p with
  | nil => exact ⟨[], .nil, .nil, fun _ _ _ => rfl⟩
  | cons m members ih =>
    obtain ⟨p'', hfirst, hrest⟩ := foldlM_cons_eq_ok_iff.1 h
    obtain ⟨ms, hkeyed, hdistinct, hseen⟩ := ih hrest
    obtain ⟨k, v⟩ := m
    obtain ⟨q, rfl⟩ := exists_string_of_readMember hfirst
    obtain ⟨key, hkey, hmember⟩ := readMember_eq_ok_iff.1 hfirst
    refine ⟨(key, v) :: ms, .cons ⟨q, rfl, hkey⟩ hkeyed, ?_⟩
    rcases hmember with ⟨hf, -, rfl⟩ | ⟨f, put, hf, hnew, -, rfl⟩
    · have hno := field?_eq_none_iff.1 hf
      refine ⟨List.pairwise_cons.2 ⟨fun k _ g hg hgk => ?_, hdistinct⟩,
        fun g hg hname => ?_⟩
      · rw [hno g hg] at hgk
        cases hgk
      · rw [Member.given_cons_of_not (hno g hg), hseen g hg hname]
    · -- the field counts as seen from here on, so that it answers to no later member
      have hmem := mem_of_field? hf
      have hlater := Member.given_eq_none_iff.1 (hseen f hmem List.mem_cons_self)
      refine ⟨List.pairwise_cons.2 ⟨fun k hk g hg hgk => ?_, hdistinct⟩,
        fun g hg hname => ?_⟩
      · rw [hr.eq_of_answersTo hg hmem hgk (answersTo_of_field? hf)]
        exact hlater k hk
      · have hgk : g.answersTo key = false := Bool.eq_false_iff.2 fun hgk => hnew <|
          hr.eq_of_answersTo hg hmem hgk (answersTo_of_field? hf) ▸ hname
        rw [Member.given_cons_of_not hgk, hseen g hg (List.mem_cons_of_mem _ hname)]

/-- The members of an object from which a record is read: no field answers to two of them, those
of unknown keys have no fault, and the record is what the fields make of the others. -/
structure Reads (r : Record σ) (ms : List (String × Node)) (s : σ) : Prop where
  distinct : r.Distinct ms
  passed : ∀ m ∈ ms, r.field? m.1 = none → m.2.fault = none
  takes : ∀ f ∈ r.fields, f.Takes (f.given ms)
  filled : r.filled ms r.initial = s

/-- **When a record is read from an object.** -/
theorem readObject_eq_ok_iff_reads (hr : r.Sound) {members : List (Node × Node)} {s : σ} :
    r.readObject members none = .ok s ↔ ∃ ms, Keyed members ms ∧ r.Reads ms s := by
  constructor
  · intro h
    obtain ⟨p, hfold, -⟩ := readObject_eq_ok_iff_foldlM.1 h
    obtain ⟨ms, hkeyed, hdistinct, -⟩ := exists_keyed_of_foldlM hr hfold
    obtain ⟨hpassed, htakes, hfilled⟩ := (readObject_eq_ok_iff hr hkeyed hdistinct).1 h
    exact ⟨ms, hkeyed, hdistinct, hpassed, htakes, hfilled⟩
  · rintro ⟨ms, hkeyed, h⟩
    exact (readObject_eq_ok_iff hr hkeyed h.distinct).2 ⟨h.passed, h.takes, h.filled⟩

/-- All keys of an object from which a record is read are texts. -/
theorem legible_of_readObject (hr : r.Sound) {members : List (Node × Node)} {s : σ}
    (h : r.readObject members none = .ok s) :
    ∀ m ∈ members, ∃ q, m.1 = .string q ∧ q.Legible := by
  obtain ⟨ms, hkeyed, -⟩ := (readObject_eq_ok_iff_reads hr).1 h
  exact hkeyed.legible

/-! ### Order -/

theorem Distinct.of_perm {ks : List (String × Node)} (h : r.Distinct ms) (hperm : ms.Perm ks) :
    r.Distinct ks := by
  refine (hperm.pairwise_iff fun {m k} hmk f hf hanswers => ?_).1 h
  rw [Bool.eq_false_iff]
  intro hm
  rw [hmk f hf hm] at hanswers
  cases hanswers

theorem given_eq_of_perm (hd : r.Distinct ms) {ks : List (String × Node)} (hperm : ms.Perm ks)
    {f : Member σ} (hf : f ∈ r.fields) : f.given ms = f.given ks := by
  refine Option.ext fun n => ?_
  simp only [given_eq_some_iff hd hf, given_eq_some_iff (hd.of_perm hperm) hf, hperm.mem_iff]

theorem filled_congr {ks : List (String × Node)} (h : ∀ f ∈ r.fields, f.given ms = f.given ks)
    (s : σ) : r.filled ms s = r.filled ks s :=
  List.foldl_ext _ _ _ fun s f hf => by rw [h f hf]

/-- The order of the members does not matter. -/
theorem Reads.of_perm {s : σ} (h : r.Reads ms s) {ks : List (String × Node)}
    (hperm : ms.Perm ks) :
    r.Reads ks s where
  distinct := h.distinct.of_perm hperm
  passed := fun m hm => h.passed m (hperm.mem_iff.2 hm)
  takes := fun f hf => given_eq_of_perm h.distinct hperm hf ▸ h.takes f hf
  filled := by rw [← h.filled, filled_congr fun f hf => given_eq_of_perm h.distinct hperm hf]

/-! ### Members of unknown keys -/

theorem given_append_unknown {ks : List (String × Node)} (h : ∀ k ∈ ks, r.field? k.1 = none)
    {f : Member σ} (hf : f ∈ r.fields) : f.given (ms ++ ks) = f.given ms := by
  have hnone : ks.find? (f.answersTo ·.1) = none :=
    List.find?_eq_none.2 fun k hk => by simp [field?_eq_none_iff.1 (h k hk) f hf]
  rw [Member.given, List.find?_append, hnone, Option.or_none, Member.given]

theorem distinct_append_unknown {ks : List (String × Node)}
    (h : ∀ k ∈ ks, r.field? k.1 = none) :
    r.Distinct (ms ++ ks) ↔ r.Distinct ms := by
  have hno (k : String × Node) (hk : k ∈ ks) := field?_eq_none_iff.1 (h k hk)
  refine List.pairwise_append.trans (and_iff_left ⟨?_, fun m _ k hk f hf _ => hno k hk f hf⟩)
  exact List.pairwise_of_forall_mem_list fun m hm k hk f hf _ => hno k hk f hf

/-- Members of unknown keys change nothing. -/
theorem reads_append_unknown {ks : List (String × Node)} (h : ∀ k ∈ ks, r.field? k.1 = none)
    (hfault : ∀ k ∈ ks, k.2.fault = none) {s : σ} : r.Reads (ms ++ ks) s ↔ r.Reads ms s := by
  have hgiven (f : Member σ) (hf : f ∈ r.fields) : f.given (ms ++ ks) = f.given ms :=
    given_append_unknown h hf
  constructor
  · intro hreads
    exact
      { distinct := (distinct_append_unknown h).1 hreads.distinct
        passed := fun m hm => hreads.passed m (List.mem_append_left _ hm)
        takes := fun f hf => hgiven f hf ▸ hreads.takes f hf
        filled := by rw [← hreads.filled, filled_congr hgiven] }
  · intro hreads
    refine
      { distinct := (distinct_append_unknown h).2 hreads.distinct
        passed := fun m hm hm' => ?_
        takes := fun f hf => (hgiven f hf).symm ▸ hreads.takes f hf
        filled := by rw [← hreads.filled, filled_congr hgiven] }
    rcases List.mem_append.1 hm with hm | hm
    · exact hreads.passed m hm hm'
    · exact hfault m hm

/-! ### Rearranged objects -/

/-- A member whose key is no name of a field. `keys` says which keys there may be. -/
inductive Unknown (r : Record σ) (keys : Quoted → Prop) : Node × Node → Prop where
  /-- Any value under such a key. -/
  | mk {q : Quoted} {v : Node} (hkey : keys q)
      (hname : ∀ f ∈ r.fields, ∀ name ∈ f.names, q.text ≠ .ok name.toList) :
    Unknown r keys (.string q, v)

/-- A member that is written under a key that no field has. -/
theorem unknown_memberNode {key : String} (h : ∀ f ∈ r.fields, key ∉ f.names) (v : Value) :
    r.Unknown Quoted.Legible (Value.memberNode (key.toList, v)) := by
  refine .mk ⟨_, Quoted.text_ofText _⟩ fun f hf name hname heq => h f hf ?_
  rw [Quoted.text_ofText, Except.ok.injEq, String.toList_inj] at heq
  exact heq ▸ hname

/-- An object whose members come in another order, together with further members of unknown
keys. -/
inductive Rearranged (r : Record σ) (keys : Quoted → Prop) : Node → Node → Prop where
  /-- The members and the further ones in any order. -/
  | mk {members members' extra : List (Node × Node)} (hextra : ∀ m ∈ extra, r.Unknown keys m)
      (hperm : members'.Perm (members ++ extra)) :
    Rearranged r keys (.object members none) (.object members' none)

/-- Further members and their keys, none of which a field answers to. -/
theorem exists_keyed_of_unknown {extra : List (Node × Node)}
    (h : ∀ m ∈ extra, r.Unknown Quoted.Legible m) :
    ∃ ks, Keyed extra ks ∧ ∀ k ∈ ks, r.field? k.1 = none := by
  induction extra with
  | nil => exact ⟨[], .nil, by simp⟩
  | cons m extra ih =>
    rw [List.forall_mem_cons] at h
    obtain ⟨ks, hkeyed, hks⟩ := ih h.2
    obtain @⟨q, v, ⟨cs, hq⟩, hname⟩ := h.1
    have hcs : q.text = .ok (String.ofList cs).toList := by rw [hq, String.toList_ofList]
    refine ⟨(String.ofList cs, v) :: ks, .cons ⟨q, rfl, hcs⟩ hkeyed,
      List.forall_mem_cons.2 ⟨field?_eq_none_iff.2 fun f hf => ?_, hks⟩⟩
    rw [Bool.eq_false_iff, Ne, Member.answersTo_iff]
    exact fun hmem => hname f hf _ hmem hcs

theorem exists_keyed_append {members extra : List (Node × Node)}
    (h : Keyed (members ++ extra) ms) :
    ∃ ks ls, ms = ks ++ ls ∧ Keyed members ks ∧ Keyed extra ls := by
  have htake := List.forall₂_take members.length h
  have hdrop := List.forall₂_drop members.length h
  rw [List.take_left] at htake
  rw [List.drop_left] at hdrop
  exact ⟨_, _, (List.take_append_drop _ ms).symm, htake, hdrop⟩

/-- **Rearranged objects are read alike.**

**Proof sketch.** In an object that is read each field is given at most one member, so that it
does not matter where this member stands (`Reads.of_perm`), and further members are passed over,
as they have no fault (`reads_append_unknown`). -/
theorem Rearranged.read_eq_ok_iff (hr : r.Sound) {n n' : Node}
    (h : r.Rearranged Quoted.Legible n n') {cs : List Char} (hn' : n'.Spelt cs) {s : σ} :
    r.read n' = .ok s ↔ r.read n = .ok s := by
  obtain @⟨members, members', extra, hextra, hperm⟩ := h
  obtain ⟨ls, hls, hunknown⟩ := exists_keyed_of_unknown hextra
  have hfault : ∀ m ∈ ls, m.2.fault = none := fun m hm => by
    obtain ⟨k, hk, hkm⟩ := hls.exists_mem m hm
    have hk' : k ∈ members' := hperm.mem_iff.2 (List.mem_append_right _ hk)
    obtain ⟨ds, hds⟩ := Node.exists_spelt_of_object hn' k hk'
    exact hkm ▸ Node.fault_of_spelt hds
  refine (readObject_eq_ok_iff_reads hr).trans (Iff.trans ?_ (readObject_eq_ok_iff_reads hr).symm)
  constructor
  · rintro ⟨ms', hkeyed, hreads⟩
    obtain ⟨ms, hms, hperm'⟩ := List.perm_comp_forall₂ hperm.symm hkeyed
    obtain ⟨ks, ls', rfl, hks, hls'⟩ := exists_keyed_append hms
    obtain rfl : ls = ls' := hls.unique hls'
    exact ⟨ks, hks, (reads_append_unknown hunknown hfault).1 (hreads.of_perm hperm'.symm)⟩
  · rintro ⟨ms, hkeyed, hreads⟩
    obtain ⟨ms', hms', hperm'⟩ := List.perm_comp_forall₂ hperm (List.rel_append hkeyed hls)
    exact ⟨ms', hms', ((reads_append_unknown hunknown hfault).2 hreads).of_perm hperm'.symm⟩

theorem Rearranged.exists_spelt {keys : Quoted → Prop} {members : List (Node × Node)} {n' : Node}
    (h : r.Rearranged keys (.object members none) n') {cs : List Char} (hn' : n'.Spelt cs) :
    ∀ m ∈ members, ∃ ds, m.2.Spelt ds := by
  obtain ⟨-, hperm⟩ := h
  exact fun m hm =>
    Node.exists_spelt_of_object hn' m (hperm.mem_iff.2 (List.mem_append_left _ hm))

/-! ### Objects inside of objects -/

/-- Two members that are read alike, whatever has been read before them. -/
def Alike (r : Record σ) (m m' : Node × Node) : Prop :=
  ∀ p p', r.readMember p m = .ok p' ↔ r.readMember p m' = .ok p'

/-- Objects are read alike if their members are. -/
theorem readObject_eq_ok_iff_of_alike {members members' : List (Node × Node)}
    (h : List.Forall₂ r.Alike members members') {s : σ} :
    r.readObject members none = .ok s ↔ r.readObject members' none = .ok s := by
  have hfold (p p' : Progress σ) :
      members.foldlM r.readMember p = .ok p' ↔ members'.foldlM r.readMember p = .ok p' := by
    induction h generalizing p with
    | nil => rfl
    | cons hm _ ih => simp only [foldlM_cons_eq_ok_iff, hm p, ih]
  simp only [readObject_eq_ok_iff_foldlM, hfold]

/-- A field that holds a record reads an object and its rearrangements alike. -/
theorem Rearranged.alike {τ : Type} {k : Record τ} (hk : k.Sound) {v v' : Node}
    (h : k.Rearranged Quoted.Legible v v') {cs : List Char} (hv' : v'.Spelt cs) {name : String}
    {put : Option τ → σ → σ}
    (hf : r.field? name = some (Member.of name put (Reader.optional k.read))) {q : Quoted}
    (hq : q.text = .ok name.toList) : r.Alike (.string q, v) (.string q, v') := by
  have hread (put' : σ → σ) : (Member.of name put (Reader.optional k.read)).read v =
      .ok put' ↔
      (Member.of name put (Reader.optional k.read)).read v' = .ok put' := by
    have hrecord := fun s => h.read_eq_ok_iff hk hv' (s := s)
    obtain ⟨-, -⟩ := h
    simp only [Member.of, Reader.optional, map_eq_ok_iff, hrecord]
  intro p p'
  simp [readMember_eq_ok_iff, hq, String.toList_inj, hf, hread]

end Record

end BookFeed.Json
