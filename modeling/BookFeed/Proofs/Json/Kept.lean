import BookFeed.Proofs.Json.Rearranged

set_option autoImplicit false

/-!
# Values that are kept as a whole

Where it depends on a value what it is read as, it is checked and kept as a whole before
anything is read from it. There are three things that the check of a well-formed value finds: a
number that is out of range, a string that is no text, and too many containers inside of each
other. So it makes no difference to a value at which depth it stands, as long as there is room
for it.

## Main definitions

* `BookFeed.Json.Node.nesting` — how many containers of a value are inside of each other.
* `BookFeed.Json.Node.Clean` — a value without faults, with numbers in range.

## Main results

* `BookFeed.Json.Reader.kept_eq_ok_iff` — which values are kept.
* `BookFeed.Json.Reader.firstOf_eq_ok_iff` — when a value of several shapes is read.
-/

namespace BookFeed.Json

/-! ### How deep a value is -/

namespace Node

mutual

/-- How many containers of a value are inside of each other. -/
def nesting : Node → Nat
  | .array items _ => nestingItems items + 1
  | .object members _ => nestingMembers members + 1
  | _ => 0

/-- The same of elements. -/
def nestingItems : List Node → Nat
  | [] => 0
  | n :: ns => max n.nesting (nestingItems ns)

/-- The same of members. -/
def nestingMembers : List (Node × Node) → Nat
  | [] => 0
  | m :: ms => max (nestingMember m) (nestingMembers ms)

/-- The same of a member. -/
def nestingMember : Node × Node → Nat
  | (_, v) => v.nesting

end

theorem nesting_le_of_mem {members : List (Node × Node)} {m : Node × Node} (hm : m ∈ members) :
    m.2.nesting ≤ nestingMembers members := by
  induction members with
  | nil => cases hm
  | cons k ms ih =>
    rw [nestingMembers, nestingMember]
    rcases List.mem_cons.1 hm with rfl | hm
    · exact Nat.le_max_left _ _
    · exact Nat.le_trans (ih hm) (Nat.le_max_right _ _)

/-! ### What is wrong with a value -/

mutual

/-- A value without faults whose numbers are in range. `strings` says which strings there may
be, keys included. -/
def Clean (strings : Quoted → Prop) : Node → Prop
  | .null => True
  | .bool _ => True
  | .number n => ∃ x, n.value = .ok x
  | .string q => strings q
  | .array items fault => ItemsClean strings items ∧ fault = none
  | .object members fault => MembersClean strings members ∧ fault = none
  | .broken _ => False

/-- The same of elements. -/
def ItemsClean (strings : Quoted → Prop) : List Node → Prop
  | [] => True
  | n :: ns => n.Clean strings ∧ ItemsClean strings ns

/-- The same of members. -/
def MembersClean (strings : Quoted → Prop) : List (Node × Node) → Prop
  | [] => True
  | m :: ms => MemberClean strings m ∧ MembersClean strings ms

/-- The same of a member. -/
def MemberClean (strings : Quoted → Prop) : Node × Node → Prop
  | (.string key, v) => strings key ∧ v.Clean strings
  | _ => False

end

theorem membersClean_iff {strings : Quoted → Prop} {members : List (Node × Node)} :
    MembersClean strings members ↔ ∀ m ∈ members, MemberClean strings m := by
  induction members with
  | nil => simp [MembersClean]
  | cons m ms ih => rw [MembersClean, ih, List.forall_mem_cons]

end Node

/-! ### The check -/

namespace Reader

/-- Whether there is room for nested containers inside of `depth` others. -/
def Fits (depth nesting : Nat) : Prop := nesting = 0 ∨ depth + nesting < depthLimit

theorem fits_max {depth a b : Nat} : Fits depth (max a b) ↔ Fits depth a ∧ Fits depth b := by
  unfold Fits
  omega

theorem fits_succ {depth a : Nat} :
    Fits depth (a + 1) ↔ depth + 1 < depthLimit ∧ Fits (depth + 1) a := by
  unfold Fits
  omega

theorem ending_eq_ok_iff {fault : Option Fault} : ending fault = .ok () ↔ fault = none := by
  cases fault <;> simp [ending]

theorem seq_eq_ok_iff {x y : Except Error Unit} :
    (do x; y) = .ok () ↔ x = .ok () ∧ y = .ok () := by
  rw [bind_eq_ok_iff]
  exact ⟨fun ⟨_, hx, hy⟩ => ⟨hx, hy⟩, fun ⟨hx, hy⟩ => ⟨(), hx, hy⟩⟩

mutual

/-- **Which values are kept.** Their numbers are in range, their strings are texts, and there is
room for their containers. -/
theorem kept_eq_ok_iff (depth : Nat) :
    (n : Node) → (kept depth n = .ok () ↔ n.Clean Quoted.Legible ∧ Fits depth n.nesting)
  | .null => by simp [kept, Node.Clean, Node.nesting, Fits]
  | .bool _ => by simp [kept, Node.Clean, Node.nesting, Fits]
  | .number n => by simp [kept, Node.Clean, Node.nesting, Fits, map_eq_ok_iff]
  | .string q => by simp [kept, Node.Clean, Node.nesting, Fits, map_eq_ok_iff, Quoted.Legible]
  | .array items fault => by
    have hitems := keptItems_eq_ok_iff (depth + 1) items
    rw [kept, Node.Clean, Node.nesting, fits_succ]
    split
    · next hroom => simp [seq_eq_ok_iff, hitems, ending_eq_ok_iff, hroom, and_right_comm]
    · next hroom => simp [hroom]
  | .object members fault => by
    have hmembers := keptMembers_eq_ok_iff (depth + 1) members
    rw [kept, Node.Clean, Node.nesting, fits_succ]
    split
    · next hroom => simp [seq_eq_ok_iff, hmembers, ending_eq_ok_iff, hroom, and_right_comm]
    · next hroom => simp [hroom]
  | .broken f => by simp [kept, Node.Clean]

theorem keptItems_eq_ok_iff (depth : Nat) : (ns : List Node) →
    (keptItems depth ns = .ok () ↔
      Node.ItemsClean Quoted.Legible ns ∧ Fits depth (Node.nestingItems ns))
  | [] => by simp [keptItems, Node.ItemsClean, Node.nestingItems, Fits]
  | n :: ns => by
    rw [keptItems, seq_eq_ok_iff, kept_eq_ok_iff depth n, keptItems_eq_ok_iff depth ns,
      Node.ItemsClean, Node.nestingItems, fits_max, and_and_and_comm]

theorem keptMembers_eq_ok_iff (depth : Nat) : (ms : List (Node × Node)) →
    (keptMembers depth ms = .ok () ↔
      Node.MembersClean Quoted.Legible ms ∧ Fits depth (Node.nestingMembers ms))
  | [] => by simp [keptMembers, Node.MembersClean, Node.nestingMembers, Fits]
  | m :: ms => by
    rw [keptMembers, seq_eq_ok_iff, keptMember_eq_ok_iff depth m, keptMembers_eq_ok_iff depth ms,
      Node.MembersClean, Node.nestingMembers, fits_max, and_and_and_comm]

theorem keptMember_eq_ok_iff (depth : Nat) : (m : Node × Node) →
    (keptMember depth m = .ok () ↔
      Node.MemberClean Quoted.Legible m ∧ Fits depth (Node.nestingMember m))
  | (.string key, v) => by
    simp [keptMember, bind_eq_ok_iff, kept_eq_ok_iff depth v, Node.MemberClean, Node.nestingMember,
      Quoted.Legible, and_assoc]
  | (.null, _) | (.bool _, _) | (.number _, _) | (.array _ _, _) | (.object _ _, _)
    | (.broken _, _) => by
    simp [keptMember, Node.MemberClean]

end

/-- **When a value of several shapes is read.** It is kept, and the first shape that fits is
taken. -/
theorem firstOf_eq_ok_iff {α : Type} {type : String} {depth : Nat} {shapes : List (Reader α)}
    {n : Node} {a : α} : firstOf type depth shapes n = .ok a ↔
      (n.Clean Quoted.Legible ∧ Fits depth n.nesting) ∧
        shapes.findSome? (fun read => (read n).toOption) = some a := by
  rw [← kept_eq_ok_iff]
  cases hkept : kept depth n with
  | error e => simp [firstOf, hkept, bind, Except.bind]
  | ok u =>
    cases hshape : shapes.findSome? fun read => (read n).toOption <;>
      simp [firstOf, hkept, hshape, bind, Except.bind, pure, Except.pure, throw, throwThe,
        MonadExceptOf.throw]

/-! ### Readers that agree -/

/-- Readers that read the same values, and from each of them the same; they may complain about
others in different ways. -/
def Agree {α : Type} (read read' : Reader α) : Prop := ∀ n a, read n = .ok a ↔ read' n = .ok a

theorem Agree.refl {α : Type} (read : Reader α) : Agree read read := fun _ _ => Iff.rfl

theorem Agree.symm {α : Type} {read read' : Reader α} (h : Agree read read') : Agree read' read :=
  fun n a => (h n a).symm

theorem Agree.optional {α : Type} {read read' : Reader α} (h : Agree read read') :
    Agree (optional read) (optional read') := by
  intro n x
  unfold Reader.optional
  split
  · rfl
  · simp only [map_eq_ok_iff, h _ _]

theorem mapM_eq_ok_iff {α : Type} {read : Reader α} {items : List Node} {xs : List α} :
    items.mapM read = .ok xs ↔ List.Forall₂ (fun n x => read n = .ok x) items xs := by
  induction items generalizing xs with
  | nil => simp [pure, Except.pure, eq_comm]
  | cons n items ih =>
    rw [List.mapM_cons, List.forall₂_cons_left_iff]
    simp only [bind_eq_ok_iff, ih, pure, Except.pure, Except.ok.injEq, exists_and_left,
      eq_comm (b := xs)]

theorem list_eq_ok_iff {α : Type} {read : Reader α} {items : List Node} {fault : Option Fault}
    {xs : List α} : list read (.array items fault) = .ok xs ↔
      List.Forall₂ (fun n x => read n = .ok x) items xs ∧ fault = none := by
  cases fault <;>
    simp [list, bind_eq_ok_iff, mapM_eq_ok_iff, ending, pure, Except.pure]

theorem Agree.list {α : Type} {read read' : Reader α} (h : Agree read read') :
    Agree (list read) (list read') := by
  intro n xs
  cases n with
  | array items fault => simp only [list_eq_ok_iff, h _ _]
  | _ => simp [Reader.list]

end Reader

/-- Fields with the same names and with readers that agree. -/
structure Member.Agree {σ : Type} (f g : Member σ) : Prop where
  name : f.name = g.name
  aliases : f.aliases = g.aliases
  required : f.required = g.required
  read : Reader.Agree f.read g.read

namespace Member

variable {σ : Type}

theorem Agree.refl (f : Member σ) : f.Agree f := ⟨rfl, rfl, rfl, Reader.Agree.refl _⟩

theorem Agree.symm {f g : Member σ} (h : f.Agree g) : g.Agree f :=
  ⟨h.name.symm, h.aliases.symm, h.required.symm, h.read.symm⟩

theorem agree_of {α : Type} {read read' : Reader α} (h : Reader.Agree read read') (name : String)
    (put : α → σ → σ) : (Member.of name put read).Agree (Member.of name put read') where
  name := rfl
  aliases := rfl
  required := rfl
  read n put := by simp only [Member.of, map_eq_ok_iff, h n _]

theorem Agree.answersTo {f g : Member σ} (h : f.Agree g) (key : String) :
    f.answersTo key = g.answersTo key := by
  rw [Member.answersTo, Member.answersTo, h.name, h.aliases]

end Member

namespace Record

variable {σ : Type} {r k : Record σ}

theorem agree_find? {fs gs : List (Member σ)} (h : List.Forall₂ Member.Agree fs gs)
    (key : String) :
    Option.Rel Member.Agree (fs.find? (·.answersTo key)) (gs.find? (·.answersTo key)) := by
  induction h with
  | nil => exact .none
  | cons hfg _ ih =>
    rw [List.find?_cons, List.find?_cons, hfg.answersTo key]
    split
    · exact .some hfg
    · exact ih

theorem readMember_of_agree (h : List.Forall₂ Member.Agree r.fields k.fields) {p p' : Progress σ}
    {m : Node × Node} (hread : r.readMember p m = .ok p') : k.readMember p m = .ok p' := by
  obtain ⟨n, v⟩ := m
  obtain ⟨q, rfl⟩ := exists_string_of_readMember hread
  obtain ⟨key, hkey, hmember⟩ := readMember_eq_ok_iff.1 hread
  have hfields : Option.Rel Member.Agree (r.field? key) (k.field? key) := agree_find? h key
  refine readMember_eq_ok_iff.2 ⟨key, hkey, ?_⟩
  rcases hmember with ⟨hf, hv, hp⟩ | ⟨f, put, hf, hnew, hput, hp⟩
  · rw [hf] at hfields
    cases hg : k.field? key with
    | none => exact .inl ⟨rfl, hv, hp⟩
    | some g =>
      rw [hg] at hfields
      cases hfields
  · rw [hf] at hfields
    cases hg : k.field? key with
    | none =>
      rw [hg] at hfields
      cases hfields
    | some g =>
      rw [hg] at hfields
      obtain ⟨hfg⟩ := hfields
      rw [hfg.name] at hnew hp
      exact .inr ⟨g, put, rfl, hnew, (hfg.read v put).1 hput, hp⟩

theorem foldlM_of_agree (h : List.Forall₂ Member.Agree r.fields k.fields)
    {members : List (Node × Node)} {p p' : Progress σ}
    (hread : members.foldlM r.readMember p = .ok p') :
    members.foldlM k.readMember p = .ok p' := by
  induction members generalizing p with
  | nil => exact hread
  | cons m members ih =>
    obtain ⟨p'', hfirst, hrest⟩ := foldlM_cons_eq_ok_iff.1 hread
    exact foldlM_cons_eq_ok_iff.2 ⟨p'', readMember_of_agree h hfirst, ih hrest⟩

theorem missing?_of_agree (h : List.Forall₂ Member.Agree r.fields k.fields) (seen : List String) :
    r.missing? seen = none ↔ k.missing? seen = none := by
  simp only [missing?_eq_none_iff]
  generalize r.fields = fs, k.fields = gs at h
  induction h with
  | nil => simp
  | cons hfg _ ih => simp only [List.forall_mem_cons, hfg.required, hfg.name, ih]

theorem readObject_of_agree (hinitial : r.initial = k.initial)
    (h : List.Forall₂ Member.Agree r.fields k.fields) {members : List (Node × Node)}
    {fault : Option Fault} {s : σ} (hread : r.readObject members fault = .ok s) :
    k.readObject members fault = .ok s := by
  obtain ⟨p, hfold, hread⟩ := bind_eq_ok_iff.1 hread
  obtain ⟨u, hending, hread⟩ := bind_eq_ok_iff.1 hread
  rw [hinitial] at hfold
  refine bind_eq_ok_iff.2 ⟨p, foldlM_of_agree h hfold, bind_eq_ok_iff.2 ⟨u, hending, ?_⟩⟩
  cases hmissing : r.missing? p.seen with
  | none =>
    rw [hmissing] at hread
    rw [(missing?_of_agree h p.seen).1 hmissing]
    exact hread
  | some f =>
    rw [hmissing] at hread
    cases hread

theorem readFields_of_agree {fault : Option Fault} {fs gs : List (Member σ)}
    (h : List.Forall₂ Member.Agree fs gs) {i : Nat} {items : List Node} {s s' : σ}
    (hread : r.readFields fault i fs items s = .ok s') :
    k.readFields fault i gs items s = .ok s' := by
  induction h generalizing i items s with
  | nil => exact hread
  | @cons f g fs gs hfg _ ih =>
    rw [readFields] at hread ⊢
    obtain ⟨found, hnext, hread⟩ := bind_eq_ok_iff.1 hread
    refine bind_eq_ok_iff.2 ⟨found, hnext, ?_⟩
    rcases found with _ | ⟨n, rest⟩
    · dsimp only at hread ⊢
      rw [hfg.required] at hread
      cases hrequired : g.required with
      | true =>
        rw [hrequired] at hread
        cases hread
      | false =>
        rw [hrequired] at hread
        exact ih hread
    · obtain ⟨put, hput, hread⟩ := bind_eq_ok_iff.1 hread
      exact bind_eq_ok_iff.2 ⟨put, (hfg.read n put).1 hput, ih hread⟩

theorem read_of_agree (hinitial : r.initial = k.initial)
    (h : List.Forall₂ Member.Agree r.fields k.fields) {n : Node} {s : σ}
    (hread : r.read n = .ok s) :
    k.read n = .ok s := by
  cases n with
  | object members fault => exact readObject_of_agree hinitial h hread
  | array items fault =>
    rw [read, hinitial] at hread
    exact readFields_of_agree h hread
  | _ => cases hread

/-- Records agree if their fields do. -/
theorem agree (hinitial : r.initial = k.initial)
    (h : List.Forall₂ Member.Agree r.fields k.fields) :
    Reader.Agree r.read k.read := by
  have hsymm : List.Forall₂ Member.Agree k.fields r.fields :=
    (h.imp fun _ _ hfg => hfg.symm).flip
  exact fun n s => ⟨read_of_agree hinitial h, read_of_agree hinitial.symm hsymm⟩

end Record

end BookFeed.Json
