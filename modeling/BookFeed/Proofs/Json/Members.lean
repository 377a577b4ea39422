import BookFeed.Json.Record
import BookFeed.Proofs.Json.Spelling
import Mathlib.Data.List.Nodup
import Mathlib.Data.List.Pairwise

set_option autoImplicit false

/-!
# Records read by their keys

A record is read from an object member by member, and what has been read so far is carried
along. In the end only the members' keys matter: each field holds what the member that answers
to it gives, wherever that member stands, and members of unknown names must only be free of
faults.

This holds of records whose fields are told apart by their names and do not write over one
another.

## Main definitions

* `BookFeed.Json.Keyed` — the members of an object and their keys as texts.
* `BookFeed.Json.Node.IsObject` — an object in which no key is repeated.
* `BookFeed.Json.Member.given` — the value that an object gives to a field.
* `BookFeed.Json.Record.Sound` — fields with names of their own that do not get in each
  other's way.
* `BookFeed.Json.Record.filled` — a record with what its fields are given.

## Main results

* `BookFeed.Json.Record.readObject_eq_ok_iff` — when an object is read as a record, and as
  which.
* `BookFeed.Json.Record.read_eq_ok_iff` — the same for texts without repeated keys, if each
  field has one name.
-/

namespace BookFeed.Json

variable {σ : Type}

/-- Members whose keys are the given texts. -/
def Keyed (members : List (Node × Node)) (ms : List (String × Node)) : Prop :=
  List.Forall₂ (fun m k => ∃ q, m = (.string q, k.2) ∧ q.text = .ok k.1.toList) members ms

theorem Keyed.exists_mem {members : List (Node × Node)} {ms : List (String × Node)}
    (h : Keyed members ms) : ∀ m ∈ ms, ∃ k ∈ members, k.2 = m.2 := by
  induction h with
  | nil => simp
  | cons hm _ ih =>
    obtain ⟨q, rfl, -⟩ := hm
    refine List.forall_mem_cons.2 ⟨⟨_, List.mem_cons_self, rfl⟩, fun m hm => ?_⟩
    obtain ⟨k, hk, hkm⟩ := ih m hm
    exact ⟨k, List.mem_cons_of_mem _ hk, hkm⟩

/-- An object whose members have the given keys, each of them once. -/
inductive Node.IsObject : Node → List (String × Node) → Prop where
  /-- Members and their keys as texts. -/
  | mk {members : List (Node × Node)} {ms : List (String × Node)} (hkeys : Keyed members ms)
      (hnodup : (ms.map Prod.fst).Nodup) : IsObject (.object members none) ms

/-- The values in an object that is written are written. -/
theorem Node.IsObject.exists_spelt {n : Node} {ms : List (String × Node)} {cs : List Char}
    (h : n.IsObject ms) (hn : n.Spelt cs) : ∀ m ∈ ms, ∃ ds, m.2.Spelt ds := by
  obtain ⟨hkeys, -⟩ := h
  intro m hm
  obtain ⟨k, hk, hkm⟩ := hkeys.exists_mem m hm
  exact hkm ▸ exists_spelt_of_object hn k hk

/-! ### Fields -/

namespace Member

/-- All names of a field. -/
def names (f : Member σ) : List String := f.name :: f.aliases

theorem answersTo_iff {f : Member σ} {key : String} :
    f.answersTo key = true ↔ key ∈ f.names := by
  simp only [answersTo, names, Bool.or_eq_true, beq_iff_eq, List.contains_iff_mem, List.mem_cons,
    eq_comm (a := key)]

/-- The value of the first member that a field answers to. -/
def given (f : Member σ) (ms : List (String × Node)) : Option Node :=
  (ms.find? (f.answersTo ·.1)).map Prod.snd

theorem given_cons_of_answersTo {f : Member σ} {m : String × Node} (h : f.answersTo m.1 = true)
    (ms : List (String × Node)) : f.given (m :: ms) = some m.2 := by
  simp [given, h]

theorem given_cons_of_not {f : Member σ} {m : String × Node} (h : f.answersTo m.1 = false)
    (ms : List (String × Node)) : f.given (m :: ms) = f.given ms := by
  simp [given, h]

theorem given_eq_none_iff {f : Member σ} {ms : List (String × Node)} :
    f.given ms = none ↔ ∀ m ∈ ms, f.answersTo m.1 = false := by
  simp [given]

theorem given_eq_lookup {f : Member σ} (h : f.aliases = []) (ms : List (String × Node)) :
    f.given ms = ms.lookup f.name := by
  induction ms with
  | nil => rfl
  | cons m ms ih =>
    have hanswers : f.answersTo m.1 = (f.name == m.1) := by simp [answersTo, h]
    rw [List.lookup_cons]
    cases hm : f.name == m.1 with
    | true => rw [given_cons_of_answersTo (hanswers.trans hm)]
    | false => rw [given_cons_of_not (hanswers.trans hm), ih]

/-- What a field makes of a record when it is given a value or none. -/
def fill (f : Member σ) (n : Option Node) (s : σ) : σ :=
  match n with
  | none => s
  | some n =>
    match f.read n with
    | .ok put => put s
    | .error _ => s

@[simp] theorem fill_none (f : Member σ) (s : σ) : f.fill none s = s := rfl

/-- Whether a field can do with what it is given. -/
def Takes (f : Member σ) : Option Node → Prop
  | none => f.required = false
  | some n => ∃ put, f.read n = .ok put

/-- Two fields of which neither writes over the other. -/
def Commutes (f g : Member σ) : Prop :=
  ∀ ⦃n k : Node⦄ ⦃put put' : σ → σ⦄, f.read n = .ok put → g.read k = .ok put' →
    ∀ s, put (put' s) = put' (put s)

instance : Std.Symm (Commutes (σ := σ)) where
  symm _ _ h _ _ _ _ hg hf s := (h hf hg s).symm

theorem Commutes.fill {f g : Member σ} (h : f.Commutes g) {n : Node} {put : σ → σ}
    (hf : f.read n = .ok put) (k : Option Node) (s : σ) :
    put (g.fill k s) = g.fill k (put s) := by
  cases k with
  | none => rfl
  | some k =>
    cases hg : g.read k with
    | ok put' => simpa only [Member.fill, hg] using h hf hg s
    | error e => simp only [Member.fill, hg]

/-- Fields that put what they read into different places do not write over one another. -/
theorem commutes_of {α β : Type} {put : α → σ → σ} {put' : β → σ → σ}
    (h : ∀ a b s, put a (put' b s) = put' b (put a s)) (name name' : String) (read : Reader α)
    (read' : Reader β) : (Member.of name put read).Commutes (Member.of name' put' read') := by
  intro n k p p' hp hp' s
  simp only [Member.of] at hp hp'
  cases hn : read n with
  | error e =>
    rw [hn] at hp
    cases hp
  | ok a =>
    cases hk : read' k with
    | error e =>
      rw [hk] at hp'
      cases hp'
    | ok b =>
      rw [hn] at hp
      rw [hk] at hp'
      cases hp
      cases hp'
      exact h a b s

@[simp] theorem name_of {α : Type} {name : String} {put : α → σ → σ} {read : Reader α} :
    (Member.of name put read).name = name := rfl

@[simp] theorem name_demanded {f : Member σ} : f.demanded.name = f.name := rfl

@[simp] theorem fill_demanded {f : Member σ} : f.demanded.fill = f.fill := rfl

/-- A field that puts what it reads can do with what can be read, and need not be given
anything. -/
@[simp] theorem takes_of {α : Type} {name : String} {put : α → σ → σ} {read : Reader α}
    {n : Option Node} :
    (Member.of name put read).Takes n ↔ ∀ k ∈ n, ∃ a, read k = .ok a := by
  cases n with
  | none => simp [Takes, Member.of]
  | some k => cases hk : read k <;> simp [Takes, Member.of, hk, Except.map]

@[simp] theorem takes_demanded {f : Member σ} {n : Option Node} :
    f.demanded.Takes n ↔ n ≠ none ∧ f.Takes n := by
  cases n <;> simp [Takes, demanded]

theorem fill_of {α : Type} {name : String} {put : α → σ → σ} {read : Reader α} {n : Node}
    {a : α} (h : read n = .ok a) (s : σ) :
    (Member.of name put read).fill (some n) s = put a s := by
  simp [fill, Member.of, h, Except.map]

/-- A field leaves alone what it does not put. -/
theorem fill_frame {α β : Type} {name : String} {put : α → σ → σ} {read : Reader α}
    (look : σ → β) (h : ∀ a s, look (put a s) = look s) (n : Option Node) (s : σ) :
    look ((Member.of name put read).fill n s) = look s := by
  cases n with
  | none => rfl
  | some k =>
    cases hk : read k with
    | ok a => rw [fill_of hk, h]
    | error e => simp [fill, Member.of, hk, Except.map]

@[simp] theorem orNamed_commutes {f g : Member σ} {aliases : List String} :
    (f.orNamed aliases).Commutes g ↔ f.Commutes g := Iff.rfl

@[simp] theorem commutes_orNamed {f g : Member σ} {aliases : List String} :
    f.Commutes (g.orNamed aliases) ↔ f.Commutes g := Iff.rfl

@[simp] theorem demanded_commutes {f g : Member σ} :
    f.demanded.Commutes g ↔ f.Commutes g := Iff.rfl

@[simp] theorem commutes_demanded {f g : Member σ} :
    f.Commutes g.demanded ↔ f.Commutes g := Iff.rfl

/-- What a field puts into a record may be put there before other fields are filled. -/
theorem foldl_fill {f : Member σ} {n : Node} {put : σ → σ} (hf : f.read n = .ok put)
    {gs : List (Member σ)} (h : ∀ g ∈ gs, f.Commutes g) (ms : List (String × Node)) (s : σ) :
    gs.foldl (fun s g => g.fill (g.given ms) s) (put s) =
      put (gs.foldl (fun s g => g.fill (g.given ms) s) s) := by
  induction gs generalizing s with
  | nil => rfl
  | cons g gs ih =>
    rw [List.forall_mem_cons] at h
    rw [List.foldl_cons, List.foldl_cons, ← h.1.fill hf, ih h.2]

end Member

/-! ### Records -/

namespace Record

variable {r : Record σ} {ms : List (String × Node)}

/-- The fields of a record have names of their own, and none writes over another. -/
structure Sound (r : Record σ) : Prop where
  nodup : (r.fields.flatMap Member.names).Nodup
  commutes : r.fields.Pairwise Member.Commutes

/-- No field answers to two members. -/
def Distinct (r : Record σ) (ms : List (String × Node)) : Prop :=
  ms.Pairwise fun m k => ∀ f ∈ r.fields, f.answersTo m.1 = true → f.answersTo k.1 = false

/-- A record with what its fields are given. -/
def filled (r : Record σ) (ms : List (String × Node)) (s : σ) : σ :=
  r.fields.foldl (fun s f => f.fill (f.given ms) s) s

/-- Whether a member can be read. -/
def Accepts (r : Record σ) (m : String × Node) : Prop :=
  match r.field? m.1 with
  | none => m.2.fault = none
  | some f => ∃ put, f.read m.2 = .ok put

theorem mem_of_field? {key : String} {f : Member σ} (h : r.field? key = some f) : f ∈ r.fields :=
  List.mem_of_find?_eq_some h

theorem answersTo_of_field? {key : String} {f : Member σ} (h : r.field? key = some f) :
    f.answersTo key = true :=
  List.find?_some (p := fun g : Member σ => g.answersTo key) h

theorem field?_eq_none_iff {key : String} :
    r.field? key = none ↔ ∀ f ∈ r.fields, f.answersTo key = false := by
  simp [field?]

/-! #### What the fields hold -/

theorem filled_nil (s : σ) : r.filled [] s = s := by
  unfold filled
  induction r.fields with
  | nil => rfl
  | cons f fs ih => exact ih

theorem filled_cons_unknown {m : String × Node} (h : r.field? m.1 = none) (s : σ) :
    r.filled (m :: ms) s = r.filled ms s := by
  refine List.foldl_ext _ _ _ fun s f hf => ?_
  rw [Member.given_cons_of_not (field?_eq_none_iff.1 h f hf)]

theorem answersTo_name (f : Member σ) : f.answersTo f.name = true :=
  Member.answersTo_iff.2 List.mem_cons_self

/-- At most one field answers to a name. -/
theorem Sound.eq_of_answersTo (hr : r.Sound) {f g : Member σ} {key : String} (hf : f ∈ r.fields)
    (hg : g ∈ r.fields) (hfk : f.answersTo key = true) (hgk : g.answersTo key = true) :
    f = g := by
  by_contra hne
  have : Std.Symm (Function.onFun List.Disjoint (Member.names (σ := σ))) :=
    ⟨fun _ _ h => List.disjoint_comm.1 h⟩
  have hdisjoint := (List.nodup_flatMap.1 hr.nodup).2.forall hf hg hne
  exact hdisjoint (Member.answersTo_iff.1 hfk) (Member.answersTo_iff.1 hgk)

theorem Sound.field?_eq_some (hr : r.Sound) {f : Member σ} {key : String} (hf : f ∈ r.fields)
    (hkey : f.answersTo key = true) : r.field? key = some f := by
  cases hg : r.field? key with
  | none =>
    rw [field?_eq_none_iff.1 hg f hf] at hkey
    cases hkey
  | some g => rw [hr.eq_of_answersTo (mem_of_field? hg) hf (answersTo_of_field? hg) hkey]

/-- A field and the fields before and behind it. -/
theorem Sound.exists_append (hr : r.Sound) {f : Member σ} {key : String} (hf : f ∈ r.fields)
    (hkey : f.answersTo key = true) :
    ∃ before after, r.fields = before ++ f :: after ∧
      ∀ g ∈ before ++ after, f.Commutes g ∧ g.answersTo key = false := by
  obtain ⟨before, after, hfields⟩ := List.append_of_mem hf
  refine ⟨before, after, hfields, fun g hg => ?_⟩
  have hcommutes := hr.commutes
  have hdisjoint := (List.nodup_flatMap.1 hr.nodup).2
  rw [hfields, List.pairwise_middle fun h => Std.Symm.symm _ _ h, List.pairwise_cons]
    at hcommutes
  rw [hfields, List.pairwise_middle fun h => List.disjoint_comm.1 h, List.pairwise_cons]
    at hdisjoint
  refine ⟨hcommutes.1 g hg, Bool.eq_false_iff.2 fun hgkey => ?_⟩
  exact hdisjoint.1 g hg (Member.answersTo_iff.1 hkey) (Member.answersTo_iff.1 hgkey)

/-- What the first member puts into a record may be put there first. -/
theorem filled_cons (hr : r.Sound) {m : String × Node} {f : Member σ} {put : σ → σ}
    (hf : r.field? m.1 = some f) (hput : f.read m.2 = .ok put)
    (hlater : ∀ k ∈ ms, f.answersTo k.1 = false) (s : σ) :
    r.filled (m :: ms) s = r.filled ms (put s) := by
  have hanswers := answersTo_of_field? hf
  obtain ⟨before, after, hfields, hothers⟩ := hr.exists_append (mem_of_field? hf) hanswers
  have hgiven (g : Member σ) (hg : g ∈ before ++ after) : g.given (m :: ms) = g.given ms :=
    Member.given_cons_of_not (hothers g hg).2 ms
  -- the fields before this one take their values after it as well
  have hbefore (s : σ) : before.foldl (fun s g => g.fill (g.given ms) s) (put s) =
      put (before.foldl (fun s g => g.fill (g.given (m :: ms)) s) s) := by
    rw [Member.foldl_fill hput fun g hg => (hothers g (List.mem_append_left _ hg)).1]
    congr 1
    exact List.foldl_ext _ _ _ fun s g hg => by rw [hgiven g (List.mem_append_left _ hg)]
  have hafter (s : σ) : after.foldl (fun s g => g.fill (g.given (m :: ms)) s) s =
      after.foldl (fun s g => g.fill (g.given ms) s) s :=
    List.foldl_ext _ _ _ fun s g hg => by rw [hgiven g (List.mem_append_right _ hg)]
  have hfill (s : σ) : f.fill (f.given (m :: ms)) s = put s := by
    simp only [Member.given_cons_of_answersTo hanswers, Member.fill, hput]
  have hskip (s : σ) : f.fill (f.given ms) s = s := by
    rw [Member.given_eq_none_iff.2 hlater, Member.fill]
  simp only [filled, hfields, List.foldl_append, List.foldl_cons, hfill, hafter, hskip, hbefore]

/-! #### Reading -/

/-- What reading a member comes to. -/
theorem readMember_eq_ok_iff {p p' : Progress σ} {q : Quoted} {v : Node} :
    r.readMember p (.string q, v) = .ok p' ↔
      ∃ key : String, q.text = .ok key.toList ∧
        (r.field? key = none ∧ v.fault = none ∧ p' = p ∨
          ∃ f put, r.field? key = some f ∧ f.name ∉ p.seen ∧ f.read v = .ok put ∧
            p' = ⟨f.name :: p.seen, put p.record⟩) := by
  cases hq : q.text with
  | error e => simp [readMember, hq, bind, Except.bind]
  | ok cs =>
    have hkey {key : String} : cs = key.toList ↔ String.ofList cs = key := by
      rw [← String.toList_inj, String.toList_ofList]
    simp only [Except.ok.injEq, hkey, exists_eq_left']
    cases hf : r.field? (String.ofList cs) with
    | none =>
      cases hv : v.fault <;>
        simp [readMember, hq, hf, hv, bind, Except.bind, Reader.skip, pure, Except.pure, eq_comm]
    | some f =>
      by_cases hseen : f.name ∈ p.seen
      · simp [readMember, hq, hf, hseen, bind, Except.bind, throw, throwThe, MonadExceptOf.throw]
      · cases hput : f.read v <;>
          simp [readMember, hq, hf, hseen, hput, bind, Except.bind, pure, Except.pure, eq_comm]

theorem foldlM_cons_eq_ok_iff {p p' : Progress σ} {m : Node × Node}
    {members : List (Node × Node)} :
    (m :: members).foldlM r.readMember p = .ok p' ↔
      ∃ p'', r.readMember p m = .ok p'' ∧ members.foldlM r.readMember p'' = .ok p' := by
  rw [List.foldlM_cons]
  cases r.readMember p m <;> simp [bind, Except.bind]

theorem accepts_of_readMember {q : Quoted} {m : String × Node} (hkey : q.text = .ok m.1.toList)
    {p p' : Progress σ} (h : r.readMember p (.string q, m.2) = .ok p') : r.Accepts m := by
  obtain ⟨key, hkey', hmember⟩ := readMember_eq_ok_iff.1 h
  obtain rfl : m.1 = key := String.toList_inj.1 (Except.ok.inj (hkey.symm.trans hkey'))
  unfold Accepts
  rcases hmember with ⟨hf, hfault, -⟩ | ⟨f, put, hf, -, hput, -⟩
  · rw [hf]
    exact hfault
  · rw [hf]
    exact ⟨put, hput⟩

theorem accepts_of_foldlM {members : List (Node × Node)} (h : Keyed members ms)
    {p p' : Progress σ} (hread : members.foldlM r.readMember p = .ok p') :
    ∀ m ∈ ms, r.Accepts m := by
  induction h generalizing p with
  | nil => simp
  | @cons member m members ms hm hms ih =>
    obtain ⟨q, rfl, hkey⟩ := hm
    obtain ⟨p'', hfirst, hrest⟩ := foldlM_cons_eq_ok_iff.1 hread
    exact List.forall_mem_cons.2 ⟨accepts_of_readMember hkey hfirst, ih hrest⟩

/-- Members that can be read fill the fields they belong to. -/
theorem foldlM_readMember (hr : r.Sound) {members : List (Node × Node)} (h : Keyed members ms)
    (hd : r.Distinct ms) (haccepts : ∀ m ∈ ms, r.Accepts m) (p : Progress σ)
    (hseen : ∀ f ∈ r.fields, f.name ∈ p.seen → f.given ms = none) :
    ∃ seen, members.foldlM r.readMember p = .ok ⟨seen, r.filled ms p.record⟩ ∧
      ∀ f ∈ r.fields, f.name ∈ seen ↔ f.name ∈ p.seen ∨ f.given ms ≠ none := by
  induction h generalizing p with
  | nil => exact ⟨p.seen, by rw [filled_nil]; rfl, fun f _ => by simp [Member.given]⟩
  | @cons member m members ms hm hms ih =>
    obtain ⟨q, rfl, hkey⟩ := hm
    rw [List.forall_mem_cons] at haccepts
    obtain ⟨hfirst, hd⟩ := List.pairwise_cons.1 hd
    have hm := haccepts.1
    unfold Accepts at hm
    cases hf : r.field? m.1 with
    | none =>
      have hothers (f : Member σ) (hmem : f ∈ r.fields) : f.given (m :: ms) = f.given ms :=
        Member.given_cons_of_not (field?_eq_none_iff.1 hf f hmem) ms
      rw [hf] at hm
      obtain ⟨seen, hread, hiff⟩ := ih hd haccepts.2 p
        fun f hmem hname => by rw [← hothers f hmem, hseen f hmem hname]
      refine ⟨seen, ?_, fun f hmem => by rw [hothers f hmem, hiff f hmem]⟩
      rw [filled_cons_unknown hf]
      exact foldlM_cons_eq_ok_iff.2
        ⟨p, readMember_eq_ok_iff.2 ⟨m.1, hkey, Or.inl ⟨hf, hm, rfl⟩⟩, hread⟩
    | some f =>
      rw [hf] at hm
      obtain ⟨put, hput⟩ := hm
      have hmem := mem_of_field? hf
      have hanswers := answersTo_of_field? hf
      have hlater : ∀ k ∈ ms, f.answersTo k.1 = false :=
        fun k hk => hfirst k hk f hmem hanswers
      have hgiven := Member.given_cons_of_answersTo hanswers ms
      have hnone : f.given ms = none := Member.given_eq_none_iff.2 hlater
      have hnot : f.name ∉ p.seen := fun hname =>
        Option.some_ne_none _ (hgiven.symm.trans (hseen f hmem hname))
      have hothers (g : Member σ) (hg : g ∈ r.fields) (hne : g ≠ f) :
          g.name ≠ f.name ∧ g.given (m :: ms) = g.given ms := by
        refine ⟨fun hname => hne ?_,
          Member.given_cons_of_not (Bool.eq_false_iff.2 fun hg' => ?_) ms⟩
        · exact hr.eq_of_answersTo hg hmem (answersTo_name g) (hname ▸ answersTo_name f)
        · exact hne (hr.eq_of_answersTo hg hmem hg' hanswers)
      obtain ⟨seen, hread, hiff⟩ := ih hd haccepts.2 ⟨f.name :: p.seen, put p.record⟩ <| by
        intro g hg hname
        by_cases hne : g = f
        · rw [hne, hnone]
        · obtain ⟨hname', hg'⟩ := hothers g hg hne
          rw [← hg', hseen g hg ((List.mem_cons.1 hname).resolve_left hname')]
      refine ⟨seen, ?_, fun g hg => ?_⟩
      · rw [filled_cons hr hf hput hlater]
        exact foldlM_cons_eq_ok_iff.2
          ⟨_, readMember_eq_ok_iff.2 ⟨m.1, hkey, Or.inr ⟨f, put, hf, hnot, hput, rfl⟩⟩,
            hread⟩
      · by_cases hne : g = f
        · subst hne
          simp [hiff, hmem, hgiven]
        · obtain ⟨hname', hg'⟩ := hothers g hg hne
          simp [hiff g hg, hg', hname']

theorem missing?_eq_none_iff {seen : List String} :
    r.missing? seen = none ↔ ∀ f ∈ r.fields, f.required = true → f.name ∈ seen := by
  simp [missing?]

/-- A field is given the value of the member that it answers to. -/
theorem given_eq_some_iff (hd : r.Distinct ms) {f : Member σ} (hf : f ∈ r.fields) {n : Node} :
    f.given ms = some n ↔ ∃ m ∈ ms, f.answersTo m.1 = true ∧ m.2 = n := by
  induction ms with
  | nil => simp [Member.given]
  | cons m ms ih =>
    obtain ⟨hfirst, hd⟩ := List.pairwise_cons.1 hd
    cases hm : f.answersTo m.1 with
    | false => simp [Member.given_cons_of_not hm, ih hd, hm]
    | true =>
      have hlater : ¬ ∃ k ∈ ms, f.answersTo k.1 = true ∧ k.2 = n := by
        rintro ⟨k, hk, hkf, -⟩
        rw [hfirst k hk f hf hm] at hkf
        cases hkf
      simp only [Member.given_cons_of_answersTo hm, Option.some.injEq, List.mem_cons,
        or_and_right, exists_or, exists_eq_left, hm, true_and, hlater, or_false]

theorem accepts_iff (hr : r.Sound) (hd : r.Distinct ms) :
    (∀ m ∈ ms, r.Accepts m) ↔
      (∀ m ∈ ms, r.field? m.1 = none → m.2.fault = none) ∧
        ∀ f ∈ r.fields, ∀ n, f.given ms = some n → ∃ put, f.read n = .ok put := by
  constructor
  · refine fun h => ⟨fun m hm hf => ?_, fun f hf n hn => ?_⟩
    · have haccepts := h m hm
      rwa [Accepts, hf] at haccepts
    · obtain ⟨m, hm, hfm, rfl⟩ := (given_eq_some_iff hd hf).1 hn
      have haccepts := h m hm
      rwa [Accepts, hr.field?_eq_some hf hfm] at haccepts
  · rintro ⟨hunknown, hknown⟩ m hm
    unfold Accepts
    cases hf : r.field? m.1 with
    | none => exact hunknown m hm hf
    | some f =>
      have hmem := mem_of_field? hf
      exact hknown f hmem m.2
        ((given_eq_some_iff hd hmem).2 ⟨m, hm, answersTo_of_field? hf, rfl⟩)

theorem readObject_eq_ok_iff_foldlM {members : List (Node × Node)} {s : σ} :
    r.readObject members none = .ok s ↔
      ∃ p, members.foldlM r.readMember { record := r.initial } = .ok p ∧
        r.missing? p.seen = none ∧ p.record = s := by
  unfold readObject
  cases members.foldlM r.readMember { record := r.initial } with
  | error e => simp [bind, Except.bind]
  | ok p =>
    cases hmissing : r.missing? p.seen <;>
      simp [bind, Except.bind, Reader.ending, hmissing, pure, Except.pure, throw, throwThe,
        MonadExceptOf.throw]

theorem readObject_of_accepts (hr : r.Sound) {members : List (Node × Node)}
    (h : Keyed members ms) (hd : r.Distinct ms) (haccepts : ∀ m ∈ ms, r.Accepts m) {s : σ} :
    r.readObject members none = .ok s ↔
      (∀ f ∈ r.fields, f.required = true → f.given ms ≠ none) ∧
        r.filled ms r.initial = s := by
  obtain ⟨seen, hread, hiff⟩ :=
    foldlM_readMember hr h hd haccepts { record := r.initial } (by simp)
  have hmissing : r.missing? seen = none ↔
      ∀ f ∈ r.fields, f.required = true → f.given ms ≠ none := by
    rw [missing?_eq_none_iff]
    refine forall₂_congr fun f hf => ?_
    rw [hiff f hf]
    simp
  simp only [readObject_eq_ok_iff_foldlM, hread, Except.ok.injEq, exists_eq_left', hmissing]

theorem accepts_of_readObject {members : List (Node × Node)} (h : Keyed members ms) {s : σ}
    (hread : r.readObject members none = .ok s) : ∀ m ∈ ms, r.Accepts m := by
  obtain ⟨p, hfold, -⟩ := readObject_eq_ok_iff_foldlM.1 hread
  exact accepts_of_foldlM h hfold

/-- **When an object is read as a record.** Members of unknown names have no fault, each field
can do with what it is given, and then the record holds just that. -/
theorem readObject_eq_ok_iff (hr : r.Sound) {members : List (Node × Node)}
    (h : Keyed members ms) (hd : r.Distinct ms) {s : σ} :
    r.readObject members none = .ok s ↔
      (∀ m ∈ ms, r.field? m.1 = none → m.2.fault = none) ∧
        (∀ f ∈ r.fields, f.Takes (f.given ms)) ∧ r.filled ms r.initial = s := by
  have htakes : (∀ f ∈ r.fields, f.Takes (f.given ms)) ↔
      (∀ f ∈ r.fields, ∀ n, f.given ms = some n → ∃ put, f.read n = .ok put) ∧
        ∀ f ∈ r.fields, f.required = true → f.given ms ≠ none := by
    rw [← forall₂_and]
    refine forall₂_congr fun f _ => ?_
    cases f.given ms with
    | none => simp [Member.Takes]
    | some n => simp [Member.Takes]
  rw [htakes]
  constructor
  · intro hread
    have haccepts := accepts_of_readObject h hread
    obtain ⟨hunknown, hknown⟩ := (accepts_iff hr hd).1 haccepts
    obtain ⟨hrequired, hs⟩ := (readObject_of_accepts hr h hd haccepts).1 hread
    exact ⟨hunknown, ⟨hknown, hrequired⟩, hs⟩
  · rintro ⟨hunknown, ⟨hknown, hrequired⟩, hs⟩
    have haccepts := (accepts_iff hr hd).2 ⟨hunknown, hknown⟩
    exact (readObject_of_accepts hr h hd haccepts).2 ⟨hrequired, hs⟩

/-! #### Fields with one name each -/

theorem distinct_of_nodup (hr : ∀ f ∈ r.fields, f.aliases = [])
    (h : (ms.map Prod.fst).Nodup) : r.Distinct ms := by
  refine (List.pairwise_map.1 h).imp fun hne f hf hanswers => ?_
  have hname {key : String} : f.answersTo key = true ↔ f.name = key := by
    simp [Member.answersTo, hr f hf]
  rw [Bool.eq_false_iff, Ne, hname, hname.1 hanswers]
  exact hne

/-- **Reading a record from a text without repeated keys**, if each field has one name. -/
theorem read_eq_ok_iff (hr : r.Sound) (hplain : ∀ f ∈ r.fields, f.aliases = []) {n : Node}
    {cs : List Char} (h : n.IsObject ms) (hn : n.Spelt cs) {s : σ} :
    r.read n = .ok s ↔
      (∀ f ∈ r.fields, f.Takes (ms.lookup f.name)) ∧
        r.fields.foldl (fun s f => f.fill (ms.lookup f.name) s) r.initial = s := by
  have hspelt := h.exists_spelt hn
  obtain ⟨hkeys, hnodup⟩ := h
  have hfault : ∀ m ∈ ms, r.field? m.1 = none → m.2.fault = none := by
    intro m hm _
    obtain ⟨ds, hds⟩ := hspelt m hm
    exact Node.fault_of_spelt hds
  have htakes : (∀ f ∈ r.fields, f.Takes (f.given ms)) ↔
      ∀ f ∈ r.fields, f.Takes (ms.lookup f.name) :=
    forall₂_congr fun f hf => by rw [Member.given_eq_lookup (hplain f hf)]
  have hfilled : r.filled ms r.initial =
      r.fields.foldl (fun s f => f.fill (ms.lookup f.name) s) r.initial :=
    List.foldl_ext _ _ _ fun s f hf => by rw [Member.given_eq_lookup (hplain f hf)]
  rw [← htakes, ← hfilled]
  exact (readObject_eq_ok_iff hr hkeys (distinct_of_nodup hplain hnodup)).trans
    (and_iff_right hfault)

end Record

end BookFeed.Json
