import BookFeed.Json.Node

set_option autoImplicit false

/-!
# Well-formed JSON texts

A value has many spellings: blanks stand where they like between its parts, a character of a
string may be escaped, an exponent may have a plus sign. The grammar here says which texts are
spellings of which values, and scanning finds the value of every one of them, whatever follows
it: only a number has to be followed by something that does not go on with it.

## Main definitions

* `BookFeed.Json.Piece.Spelt`, `BookFeed.Json.PiecesSpelt` — the inside of a string.
* `BookFeed.Json.Numeral.Spelt` — a number.
* `BookFeed.Json.Node.Spelt`, `BookFeed.Json.Node.Padded` — a value, without and with blanks
  around it.
* `BookFeed.Json.Ends` — a text that does not go on with a number.

## Main results

* `BookFeed.Json.Quoted.scan_of_spelt`, `BookFeed.Json.Numeral.scan_of_spelt` — strings and
  numbers.
* `BookFeed.Json.Node.scanValue_of_spelt` — a value and what follows it.
* `BookFeed.Json.Document.scan_of_padded` — a whole text.
-/

namespace BookFeed.Json

/-! ### The grammar -/

/-- A text of blanks. -/
def Blank (cs : List Char) : Prop := ∀ c ∈ cs, Node.isBlank c = true

/-- How a piece of a string is written. -/
inductive Piece.Spelt : Piece → List Char → Prop where
  /-- A character that needs no escape. -/
  | plain {c : Char} (hvisible : 0x20 ≤ c.toNat) (hquote : c ≠ '"') (hbackslash : c ≠ '\\') :
    Spelt (.char c) [c]
  /-- A short escape. -/
  | short {e c : Char} (h : Quoted.shortEscape? e = some c) : Spelt (.char c) ['\\', e]
  /-- Four hexadecimal digits. -/
  | unit {a b c d : Char} {n : Nat} (h : Quoted.hexValue? a b c d = some n) :
    Spelt (.unit n) ['\\', 'u', a, b, c, d]

/-- How the pieces of a string are written. -/
inductive PiecesSpelt : List Piece → List Char → Prop where
  /-- No piece. -/
  | nil : PiecesSpelt [] []
  /-- A piece before others. -/
  | cons {p : Piece} {ps : List Piece} {cs ds : List Char} (h : p.Spelt cs)
      (hs : PiecesSpelt ps ds) : PiecesSpelt (p :: ps) (cs ++ ds)

/-- One or more digits. -/
structure Digits (cs : List Char) : Prop where
  ne_nil : cs ≠ []
  isDigit : ∀ c ∈ cs, Numeral.isDigit c = true

/-- How the fraction of a number is written. -/
inductive FractionSpelt : List Char → List Char → Prop where
  /-- There is none. -/
  | absent : FractionSpelt [] []
  /-- The point and digits. -/
  | present {ds : List Char} (h : Digits ds) : FractionSpelt ds ('.' :: ds)

/-- How the exponent of a number is written. -/
inductive ExponentSpelt : Option (Bool × List Char) → List Char → Prop where
  /-- There is none. -/
  | absent : ExponentSpelt none []
  /-- Digits without a sign. -/
  | bare {mark : Char} {ds : List Char} (hmark : mark = 'e' ∨ mark = 'E') (h : Digits ds) :
    ExponentSpelt (some (false, ds)) (mark :: ds)
  /-- A plus sign. -/
  | plus {mark : Char} {ds : List Char} (hmark : mark = 'e' ∨ mark = 'E') (h : Digits ds) :
    ExponentSpelt (some (false, ds)) (mark :: '+' :: ds)
  /-- A minus sign. -/
  | minus {mark : Char} {ds : List Char} (hmark : mark = 'e' ∨ mark = 'E') (h : Digits ds) :
    ExponentSpelt (some (true, ds)) (mark :: '-' :: ds)

/-- How a number is written: no zero stands before another digit. -/
inductive Numeral.Spelt : Numeral → List Char → Prop where
  /-- Sign, digits before the point, fraction and exponent. -/
  | mk {negative : Bool} {whole fraction fs es : List Char} {exponent : Option (Bool × List Char)}
      (hwhole : Digits whole) (hzero : whole.head? = some '0' → whole = ['0'])
      (hfraction : FractionSpelt fraction fs) (hexponent : ExponentSpelt exponent es) :
    Spelt ⟨negative, whole, fraction, exponent⟩
      ((if negative then ['-'] else []) ++ whole ++ fs ++ es)

mutual

/-- How a value is written. -/
inductive Node.Spelt : Node → List Char → Prop where
  /-- The word `null`. -/
  | null : Node.Spelt .null ['n', 'u', 'l', 'l']
  /-- The word `true`. -/
  | true : Node.Spelt (.bool Bool.true) ['t', 'r', 'u', 'e']
  /-- The word `false`. -/
  | false : Node.Spelt (.bool Bool.false) ['f', 'a', 'l', 's', 'e']
  /-- A number. -/
  | number {n : Numeral} {cs : List Char} (h : n.Spelt cs) : Node.Spelt (.number n) cs
  /-- A string. -/
  | string {ps : List Piece} {cs : List Char} (h : PiecesSpelt ps cs) :
    Node.Spelt (.string ⟨ps, none⟩) ('"' :: cs ++ ['"'])
  /-- An array without elements. -/
  | emptyArray {b : List Char} (h : Blank b) : Node.Spelt (.array [] none) ('[' :: b ++ [']'])
  /-- An array with elements. -/
  | array {items : List Node} {cs : List Char} (h : ItemsSpelt items cs) :
    Node.Spelt (.array items none) ('[' :: cs ++ [']'])
  /-- An object without members. -/
  | emptyObject {b : List Char} (h : Blank b) :
    Node.Spelt (.object [] none) ('\x7b' :: b ++ ['\x7d'])
  /-- An object with members. -/
  | object {members : List (Node × Node)} {cs : List Char} (h : MembersSpelt members cs) :
    Node.Spelt (.object members none) ('\x7b' :: cs ++ ['\x7d'])

/-- How a value is written with blanks around it. -/
inductive Node.Padded : Node → List Char → Prop where
  /-- Blanks, a value and blanks. -/
  | mk {n : Node} {b cs b' : List Char} (hb : Blank b) (h : Node.Spelt n cs) (hb' : Blank b') :
    Node.Padded n (b ++ cs ++ b')

/-- How elements are written, with commas between them. -/
inductive ItemsSpelt : List Node → List Char → Prop where
  /-- The last element. -/
  | last {n : Node} {cs : List Char} (h : Node.Padded n cs) : ItemsSpelt [n] cs
  /-- An element before others. -/
  | cons {n : Node} {ns : List Node} {cs ds : List Char} (h : Node.Padded n cs)
      (hs : ItemsSpelt ns ds) : ItemsSpelt (n :: ns) (cs ++ ',' :: ds)

/-- How a member is written: a string, a colon and a value. -/
inductive MemberSpelt : Node × Node → List Char → Prop where
  /-- Key and value. -/
  | mk {ps : List Piece} {v : Node} {b cs b' ds : List Char} (hb : Blank b)
      (hkey : PiecesSpelt ps cs) (hb' : Blank b') (hvalue : Node.Padded v ds) :
    MemberSpelt (.string ⟨ps, none⟩, v) (b ++ ('"' :: cs ++ ['"']) ++ b' ++ ':' :: ds)

/-- How members are written, with commas between them. -/
inductive MembersSpelt : List (Node × Node) → List Char → Prop where
  /-- The last member. -/
  | last {m : Node × Node} {cs : List Char} (h : MemberSpelt m cs) : MembersSpelt [m] cs
  /-- A member before others. -/
  | cons {m : Node × Node} {ms : List (Node × Node)} {cs ds : List Char} (h : MemberSpelt m cs)
      (hs : MembersSpelt ms ds) : MembersSpelt (m :: ms) (cs ++ ',' :: ds)

end

/-! ### Blanks -/

namespace Node

theorem blank_nil : Blank [] := by
  intro c hc
  cases hc

theorem skipBlank_append {b : List Char} (hb : Blank b) (cs : List Char) :
    skipBlank (b ++ cs) = skipBlank cs := by
  unfold skipBlank
  exact List.dropWhile_append_of_pos hb

theorem skipBlank_cons {c : Char} (hc : isBlank c = false) (cs : List Char) :
    skipBlank (c :: cs) = c :: cs := by
  simp [skipBlank, hc]

theorem skipBlank_blank {b : List Char} (hb : Blank b) : skipBlank b = [] := by
  simpa [skipBlank] using skipBlank_append hb []

end Node

/-! ### Strings -/

namespace Quoted

theorem scan_append_piece {p : Piece} {cs : List Char} (h : p.Spelt cs) (rest : List Char) :
    scan (cs ++ rest) = cons p (scan rest) := by
  cases h with
  | @plain c hvisible hquote hbackslash =>
    have hlow : ¬ c.toNat < 0x20 := by omega
    simp [scan, hbackslash, hlow]
  | @short e c h =>
    have hu : e ≠ 'u' := by
      rintro rfl
      cases h
    simp [scan, hu, h]
  | unit h => simp [scan, h]

/-- A string is scanned to its closing quote. -/
theorem scan_of_spelt {ps : List Piece} {cs : List Char} (h : PiecesSpelt ps cs)
    (rest : List Char) : scan (cs ++ '"' :: rest) = (⟨ps, none⟩, rest) := by
  induction h with
  | nil => simp [scan]
  | cons h hs ih =>
    rw [List.append_assoc, scan_append_piece h, ih]
    rfl

end Quoted

/-! ### Numbers -/

/-- A text that does not start with such a character. -/
def Avoids (p : Char → Bool) (cs : List Char) : Prop := ∀ c ∈ cs.head?, p c = false

theorem avoids_cons {p : Char → Bool} {c : Char} {cs : List Char} :
    Avoids p (c :: cs) ↔ p c = false := by
  simp [Avoids]

theorem Avoids.mono {p q : Char → Bool} {cs : List Char} (h : Avoids p cs)
    (hpq : ∀ c, p c = false → q c = false) : Avoids q cs :=
  fun c hc => hpq c (h c hc)

/-- Whether a number goes on with a character. -/
def Numeral.goesOn (c : Char) : Bool := isDigit c || c == '.' || c == 'e' || c == 'E'

/-- A text that does not go on with a number. -/
abbrev Ends (cs : List Char) : Prop := Avoids Numeral.goesOn cs

namespace Numeral

/-- A digit is not any other character. -/
theorem ne_of_isDigit {c d : Char} (hc : isDigit c = true) (hd : isDigit d = false) : c ≠ d := by
  rintro rfl
  rw [hc] at hd
  cases hd

theorem scanDigits_append {ds rest : List Char} (h : Digits ds) (hrest : Avoids isDigit rest) :
    scanDigits (ds ++ rest) = .ok (ds, rest) := by
  have htake : rest.takeWhile isDigit = [] := by
    cases rest with
    | nil => rfl
    | cons c cs => simp [avoids_cons.1 hrest]
  have hdrop : rest.dropWhile isDigit = rest := by
    cases rest with
    | nil => rfl
    | cons c cs => simp [avoids_cons.1 hrest]
  obtain ⟨d, ds, rfl⟩ := List.exists_cons_of_ne_nil h.ne_nil
  rw [List.cons_append, scanDigits, if_pos (h.isDigit d List.mem_cons_self), ← List.cons_append,
    List.takeWhile_append_of_pos h.isDigit, List.dropWhile_append_of_pos h.isDigit, htake, hdrop,
    List.append_nil]

theorem scanWhole_append {ds rest : List Char} (h : Digits ds)
    (hzero : ds.head? = some '0' → ds = ['0']) (hrest : Avoids isDigit rest) :
    scanWhole (ds ++ rest) = .ok (ds, rest) := by
  unfold scanWhole
  split
  · next c r heq =>
    -- behind a zero there is no digit
    obtain ⟨d, ds, rfl⟩ := List.exists_cons_of_ne_nil h.ne_nil
    obtain ⟨rfl, hr⟩ := List.cons_eq_cons.1 heq
    obtain rfl : ds = [] := (List.cons_eq_cons.1 (hzero rfl)).2
    obtain rfl : rest = c :: r := hr
    rw [if_neg (by simp [avoids_cons.1 hrest])]
  · exact scanDigits_append h hrest

theorem scanFraction_append {ds fs rest : List Char} (h : FractionSpelt ds fs)
    (hrest : Avoids (fun c => isDigit c || c == '.') rest) :
    scanFraction (fs ++ rest) = .ok (ds, rest) := by
  cases h with
  | absent =>
    unfold scanFraction
    split
    · next r heq =>
      rw [List.nil_append] at heq
      subst heq
      exact absurd (avoids_cons.1 hrest) (by decide)
    · rfl
  | present h =>
    refine scanDigits_append h (hrest.mono fun c hc => ?_)
    exact (Bool.or_eq_false_iff.1 hc).1

theorem scanSign_digits {ds rest : List Char} (h : Digits ds) :
    scanSign (ds ++ rest) = (false, ds ++ rest) := by
  obtain ⟨d, ds, rfl⟩ := List.exists_cons_of_ne_nil h.ne_nil
  have hd := h.isDigit d List.mem_cons_self
  unfold scanSign
  split
  · next heq => exact absurd (List.cons_eq_cons.1 heq).1 (ne_of_isDigit hd (by decide))
  · next heq => exact absurd (List.cons_eq_cons.1 heq).1 (ne_of_isDigit hd (by decide))
  · rfl

theorem avoids_digit_of_ends {rest : List Char} (h : Ends rest) : Avoids isDigit rest :=
  h.mono fun c hc => by simp [goesOn] at hc; exact hc.1.1.1

theorem scanExponent_append {exponent : Option (Bool × List Char)} {es rest : List Char}
    (h : ExponentSpelt exponent es) (hrest : Ends rest) :
    scanExponent (es ++ rest) = .ok (exponent, rest) := by
  have hdigit := avoids_digit_of_ends hrest
  cases h with
  | absent =>
    cases rest with
    | nil => rfl
    | cons c cs =>
      have hc := avoids_cons.1 hrest
      simp [goesOn] at hc
      simp [scanExponent, hc]
  | bare hmark h =>
    rw [List.cons_append, scanExponent, if_pos hmark, scanSign_digits h]
    simp only [scanDigits_append h hdigit]
    rfl
  | plus hmark h =>
    rw [List.cons_append, scanExponent, if_pos hmark]
    simp only [List.cons_append, scanSign, scanDigits_append h hdigit]
    rfl
  | minus hmark h =>
    rw [List.cons_append, scanExponent, if_pos hmark]
    simp only [List.cons_append, scanSign, scanDigits_append h hdigit]
    rfl

theorem avoids_exponent {exponent : Option (Bool × List Char)} {es rest : List Char}
    (h : ExponentSpelt exponent es) (hrest : Ends rest) :
    Avoids (fun c => isDigit c || c == '.') (es ++ rest) := by
  cases h with
  | absent => exact hrest.mono fun c hc => by simp [goesOn] at hc; simp [hc]
  | bare hmark h => rcases hmark with rfl | rfl <;> exact avoids_cons.2 (by decide)
  | plus hmark h => rcases hmark with rfl | rfl <;> exact avoids_cons.2 (by decide)
  | minus hmark h => rcases hmark with rfl | rfl <;> exact avoids_cons.2 (by decide)

theorem avoids_fraction {ds fs rest : List Char} (h : FractionSpelt ds fs)
    (hrest : Avoids (fun c => isDigit c || c == '.') rest) : Avoids isDigit (fs ++ rest) := by
  cases h with
  | absent => exact hrest.mono fun c hc => (Bool.or_eq_false_iff.1 hc).1
  | present h => exact avoids_cons.2 (by decide)

/-- A number is scanned up to a character that it does not go on with. -/
theorem scan_of_spelt {n : Numeral} {cs rest : List Char} (h : n.Spelt cs) (hrest : Ends rest) :
    scan (cs ++ rest) = .ok (n, rest) := by
  obtain @⟨negative, whole, fraction, fs, es, exponent, hwhole, hzero, hfraction, hexponent⟩ :=
    h
  have hes := avoids_exponent hexponent hrest
  have hfs := avoids_fraction hfraction hes
  have hwhole' := scanWhole_append hwhole hzero hfs
  have hfraction' := scanFraction_append hfraction hes
  have hexponent' := scanExponent_append hexponent hrest
  cases negative with
  | true =>
    simp only [scan, if_true, List.append_assoc, List.cons_append, List.nil_append, hwhole',
      hfraction', hexponent', bind, Except.bind]
    rfl
  | false =>
    obtain ⟨d, ds, rfl⟩ := List.exists_cons_of_ne_nil hwhole.ne_nil
    have hd : d ≠ '-' := ne_of_isDigit (hwhole.isDigit d List.mem_cons_self) (by decide)
    rw [List.cons_append] at hwhole'
    simp [scan, hd, hwhole', hfraction', hexponent', bind, Except.bind, pure, Except.pure]

/-- A number starts with a minus or a digit. -/
theorem exists_cons_of_spelt {n : Numeral} {cs : List Char} (h : n.Spelt cs) :
    ∃ c r, cs = c :: r ∧ (c = '-' ∨ isDigit c = true) := by
  obtain @⟨negative, whole, fraction, fs, es, exponent, hwhole, hzero, hfraction, hexponent⟩ :=
    h
  obtain ⟨d, ds, rfl⟩ := List.exists_cons_of_ne_nil hwhole.ne_nil
  cases negative with
  | true => exact ⟨'-', _, rfl, Or.inl rfl⟩
  | false => exact ⟨d, _, rfl, Or.inr (hwhole.isDigit d List.mem_cons_self)⟩

end Numeral

/-! ### Values -/

namespace Node

theorem fault_of_spelt {n : Node} {cs : List Char} (h : n.Spelt cs) : n.fault = none := by
  cases h <;> rfl

theorem exists_spelt_of_padded {n : Node} {cs : List Char} (h : n.Padded cs) :
    ∃ ds, n.Spelt ds := by
  obtain ⟨-, h, -⟩ := h
  exact ⟨_, h⟩

/-- The values in an object are written in its text. -/
theorem exists_spelt_of_mem {ms : List (Node × Node)} {cs : List Char} (h : MembersSpelt ms cs) :
    ∀ m ∈ ms, ∃ ds, m.2.Spelt ds := by
  have hvalue {m : Node × Node} {cs : List Char} (h : MemberSpelt m cs) :
      ∃ ds, m.2.Spelt ds := by
    obtain ⟨-, -, -, h⟩ := h
    exact exists_spelt_of_padded h
  cases h with
  | last h => exact List.forall_mem_singleton.2 (hvalue h)
  | cons h hs => exact List.forall_mem_cons.2 ⟨hvalue h, exists_spelt_of_mem hs⟩
termination_by cs.length

theorem exists_spelt_of_object {ms : List (Node × Node)} {cs : List Char}
    (h : (Node.object ms none).Spelt cs) : ∀ m ∈ ms, ∃ ds, m.2.Spelt ds := by
  cases h with
  | emptyObject h => simp
  | object h => exact exists_spelt_of_mem h

/-- A value starts with a character that is neither a blank nor the end of an array. -/
theorem exists_cons_of_spelt {n : Node} {cs : List Char} (h : n.Spelt cs) :
    ∃ c r, cs = c :: r ∧ isBlank c = false ∧ c ≠ ']' := by
  cases h with
  | number h =>
    obtain ⟨c, r, rfl, hc⟩ := Numeral.exists_cons_of_spelt h
    refine ⟨c, r, rfl, ?_⟩
    rcases hc with rfl | hc
    · decide
    · refine ⟨?_, Numeral.ne_of_isDigit hc (by decide)⟩
      simp [isBlank, Numeral.ne_of_isDigit hc (show Numeral.isDigit ' ' = false by decide),
        Numeral.ne_of_isDigit hc (show Numeral.isDigit '\t' = false by decide),
        Numeral.ne_of_isDigit hc (show Numeral.isDigit '\n' = false by decide),
        Numeral.ne_of_isDigit hc (show Numeral.isDigit '\r' = false by decide)]
  | _ => exact ⟨_, _, rfl, by decide, by decide⟩

theorem length_pos_of_spelt {n : Node} {cs : List Char} (h : n.Spelt cs) : 0 < cs.length := by
  obtain ⟨c, r, rfl, -, -⟩ := exists_cons_of_spelt h
  exact Nat.succ_pos _

theorem skipBlank_spelt {n : Node} {cs b : List Char} (h : n.Spelt cs) (hb : Blank b)
    (rest : List Char) : skipBlank (b ++ cs ++ rest) = cs ++ rest := by
  obtain ⟨c, r, rfl, hc, -⟩ := exists_cons_of_spelt h
  rw [List.append_assoc, skipBlank_append hb, List.cons_append, skipBlank_cons hc]

theorem ends_blank {b rest : List Char} (hb : Blank b) (hrest : Ends rest) : Ends (b ++ rest) := by
  cases b with
  | nil => exact hrest
  | cons c b =>
    refine avoids_cons.2 ?_
    have hc := hb c List.mem_cons_self
    simp only [isBlank, Bool.or_eq_true, beq_iff_eq] at hc
    rcases hc with ((rfl | rfl) | rfl) | rfl <;> decide

theorem ends_nil : Ends [] := fun c hc => by cases hc

theorem ends_bracket (cs : List Char) : Ends (']' :: cs) := avoids_cons.2 (by decide)

theorem ends_brace (cs : List Char) : Ends ('\x7d' :: cs) := avoids_cons.2 (by decide)

theorem ends_comma (cs : List Char) : Ends (',' :: cs) := avoids_cons.2 (by decide)

/-! #### Elements -/

theorem scanItems_end {b : List Char} (hb : Blank b) (fuel : Nat) (first : Bool)
    (rest : List Char) : scanItems (fuel + 1) first (b ++ ']' :: rest) = ([], none, rest) := by
  rw [scanItems, skipBlank_append hb, skipBlank_cons (by decide)]
  rfl

theorem scanItems_first {cs r : List Char} {c : Char} (h : skipBlank cs = c :: r) (hc : c ≠ ']')
    (fuel : Nat) : scanItems (fuel + 1) true cs = scanItem fuel (c :: r) := by
  rw [scanItems, h]
  split
  · next heq => cases heq
  · next heq => exact absurd (List.cons_eq_cons.1 heq).1 hc
  · next heq =>
    obtain ⟨rfl, rfl⟩ := List.cons_eq_cons.1 heq
    rfl

theorem scanItems_comma {b cs r : List Char} {c : Char} (hb : Blank b) (h : skipBlank cs = c :: r)
    (hc : c ≠ ']') (fuel : Nat) :
    scanItems (fuel + 1) false (b ++ ',' :: cs) = scanItem fuel (c :: r) := by
  rw [scanItems, skipBlank_append hb, skipBlank_cons (by decide)]
  simp [h, hc]

theorem scanItem_eq {fuel : Nat} {cs rest rest' : List Char} {v : Node} {vs : List Node}
    (hvalue : scanValue fuel cs = (v, rest)) (hv : v.fault = none)
    (hitems : scanItems fuel false rest = (vs, none, rest')) :
    scanItem (fuel + 1) cs = (v :: vs, none, rest') := by
  simp only [scanItem, hvalue, hv, hitems]

/-! #### Members -/

theorem scanMembers_end {b : List Char} (hb : Blank b) (fuel : Nat) (first : Bool)
    (rest : List Char) : scanMembers (fuel + 1) first (b ++ '\x7d' :: rest) = ([], none, rest) := by
  rw [scanMembers, skipBlank_append hb, skipBlank_cons (by decide)]
  rfl

theorem scanMembers_first {cs r : List Char} (h : skipBlank cs = '"' :: r) (fuel : Nat) :
    scanMembers (fuel + 1) true cs = scanMember fuel ('"' :: r) := by
  rw [scanMembers, h]
  rfl

theorem scanMembers_comma {b cs r : List Char} (hb : Blank b) (h : skipBlank cs = '"' :: r)
    (fuel : Nat) : scanMembers (fuel + 1) false (b ++ ',' :: cs) = scanMember fuel ('"' :: r) := by
  rw [scanMembers, skipBlank_append hb, skipBlank_cons (by decide)]
  simp [h]

theorem scanMember_eq {fuel : Nat} {b cs b' ds tail rest rest' : List Char} {ps : List Piece}
    {v : Node} {ms : List (Node × Node)} (hb : Blank b) (hkey : PiecesSpelt ps cs) (hb' : Blank b')
    (hvalue : scanValue (fuel + 1) (ds ++ tail) = (v, rest)) (hv : v.fault = none)
    (hmembers : scanMembers (fuel + 1) false rest = (ms, none, rest')) :
    scanMember (fuel + 2)
        (skipBlank (b ++ ('"' :: cs ++ ['"']) ++ b' ++ ':' :: ds ++ tail)) =
      ((.string ⟨ps, none⟩, v) :: ms, none, rest') := by
  have hskip : skipBlank (b ++ ('"' :: cs ++ ['"']) ++ b' ++ ':' :: ds ++ tail) =
      '"' :: (cs ++ '"' :: (b' ++ ':' :: (ds ++ tail))) := by
    simp only [List.append_assoc, List.cons_append, List.nil_append]
    rw [skipBlank_append hb, skipBlank_cons (by decide)]
  have hscan : scanValue (fuel + 1) ('"' :: (cs ++ '"' :: (b' ++ ':' :: (ds ++ tail)))) =
      (.string ⟨ps, none⟩, b' ++ ':' :: (ds ++ tail)) := by
    rw [scanValue, skipBlank_cons (by decide)]
    simp [scanString, Quoted.scan_of_spelt hkey]
  have hcolon : skipBlank (b' ++ ':' :: (ds ++ tail)) = ':' :: (ds ++ tail) := by
    rw [skipBlank_append hb', skipBlank_cons (by decide)]
  rw [hskip]
  simp only [scanMember, hscan, hcolon, hvalue, hv, hmembers]

/-! #### Any value -/

theorem scanNumber_of_spelt {n : Numeral} {cs b rest : List Char} (h : n.Spelt cs) (hb : Blank b)
    (hrest : Ends rest) (fuel : Nat) :
    scanValue (fuel + 1) (b ++ cs ++ rest) = (.number n, rest) := by
  have hscan := Numeral.scan_of_spelt h hrest
  rw [scanValue, skipBlank_spelt (.number h) hb]
  obtain ⟨c, r, rfl, hc⟩ := Numeral.exists_cons_of_spelt h
  have hne {d : Char} (hd : Numeral.isDigit d = false) (hm : d ≠ '-') : c ≠ d := by
    rcases hc with rfl | hc
    · exact hm.symm
    · exact Numeral.ne_of_isDigit hc hd
  rw [List.cons_append] at hscan ⊢
  split
  case h_1 heq => cases heq
  case h_8 heq =>
    obtain ⟨rfl, rfl⟩ := List.cons_eq_cons.1 heq
    rw [if_pos hc, scanNumber, hscan]
  all_goals next heq =>
    exact absurd (List.cons_eq_cons.1 heq).1 (hne (by decide) (by decide))

theorem skipBlank_padded {n : Node} {cs : List Char} (h : Padded n cs) (rest : List Char) :
    ∃ c r, skipBlank (cs ++ rest) = c :: r ∧ c ≠ ']' := by
  obtain @⟨n, b, cs, b', hb, h, hb'⟩ := h
  rw [List.append_assoc, skipBlank_spelt h hb]
  obtain ⟨c, r, rfl, -, hc⟩ := exists_cons_of_spelt h
  exact ⟨c, _, rfl, hc⟩

theorem skipBlank_items {items : List Node} {cs : List Char} (h : ItemsSpelt items cs)
    (rest : List Char) : ∃ c r, skipBlank (cs ++ rest) = c :: r ∧ c ≠ ']' := by
  cases h with
  | last h => exact skipBlank_padded h rest
  | cons h hs =>
    rw [List.append_assoc]
    exact skipBlank_padded h _

theorem skipBlank_member {m : Node × Node} {cs : List Char} (h : MemberSpelt m cs)
    (rest : List Char) : ∃ r, skipBlank (cs ++ rest) = '"' :: r := by
  obtain ⟨hb, hkey, hb', hvalue⟩ := h
  simp only [List.append_assoc]
  rw [skipBlank_append hb, List.cons_append, skipBlank_cons (by decide)]
  exact ⟨_, rfl⟩

theorem skipBlank_members {ms : List (Node × Node)} {cs : List Char} (h : MembersSpelt ms cs)
    (rest : List Char) : ∃ r, skipBlank (cs ++ rest) = '"' :: r := by
  cases h with
  | last h => exact skipBlank_member h rest
  | cons h hs =>
    rw [List.append_assoc]
    exact skipBlank_member h _

-- By induction on the fuel, as scanning itself goes. Two calls open a container and one more is
-- made for each of its elements, which have at least a character and its comma: twice the
-- length of the text is enough.
mutual

/-- A value is scanned to its end. -/
theorem scanValue_of_spelt {n : Node} {cs b rest : List Char} (h : n.Spelt cs) (hb : Blank b)
    (hrest : Ends rest) (fuel : Nat) (hfuel : 2 * cs.length ≤ fuel) :
    scanValue fuel (b ++ cs ++ rest) = (n, rest) := by
  have hskip := skipBlank_spelt h hb rest
  have hpos := length_pos_of_spelt h
  obtain ⟨fuel, rfl⟩ := Nat.exists_eq_add_of_le' (show 2 ≤ fuel by omega)
  rw [scanValue, hskip]
  cases h with
  | number h =>
    have hnumber := scanNumber_of_spelt h hb hrest (fuel + 1)
    rwa [scanValue, hskip] at hnumber
  | null => simp [scanWord]
  | true => simp [scanWord]
  | false => simp [scanWord]
  | string h => simp [scanString, Quoted.scan_of_spelt h]
  | emptyArray h => simp [scanItems_end h]
  | array h =>
    simp only [List.length_append, List.length_cons, List.length_nil] at hfuel
    obtain ⟨c, r, hr, hc⟩ := skipBlank_items h (']' :: rest)
    have hitems := hr ▸ scanItem_of_spelt h rest fuel (by omega)
    simp [scanItems_first hr hc, hitems]
  | emptyObject h => simp [scanMembers_end h]
  | object h =>
    simp only [List.length_append, List.length_cons, List.length_nil] at hfuel
    obtain ⟨r, hr⟩ := skipBlank_members h ('\x7d' :: rest)
    have hmembers := hr ▸ scanMember_of_spelt h rest fuel (by omega)
    simp [scanMembers_first hr, hmembers]
termination_by fuel

/-- Elements are scanned to the end of their array. -/
theorem scanItem_of_spelt {items : List Node} {cs : List Char} (h : ItemsSpelt items cs)
    (rest : List Char) (fuel : Nat) (hfuel : 2 * cs.length + 1 ≤ fuel) :
    scanItem fuel (skipBlank (cs ++ ']' :: rest)) = (items, none, rest) := by
  cases h with
  | last h =>
    obtain @⟨n, b, cs, b', hb, h, hb'⟩ := h
    have hpos := length_pos_of_spelt h
    simp only [List.length_append] at hfuel
    obtain ⟨fuel, rfl⟩ := Nat.exists_eq_add_of_le' (show 2 ≤ fuel by omega)
    have hvalue := scanValue_of_spelt h blank_nil
      (ends_blank hb' (ends_bracket rest)) (fuel + 1) (by omega)
    rw [List.append_assoc, skipBlank_spelt h hb]
    exact scanItem_eq hvalue (fault_of_spelt h) (scanItems_end hb' fuel _ rest)
  | @cons n ns cs ds h hs =>
    obtain @⟨n, b, cs, b', hb, h, hb'⟩ := h
    have hpos := length_pos_of_spelt h
    simp only [List.length_append, List.length_cons] at hfuel
    obtain ⟨fuel, rfl⟩ := Nat.exists_eq_add_of_le' (show 2 ≤ fuel by omega)
    have hvalue := scanValue_of_spelt h blank_nil
      (ends_blank hb' (ends_comma (ds ++ ']' :: rest))) (fuel + 1) (by omega)
    obtain ⟨c, r, hr, hc⟩ := skipBlank_items hs (']' :: rest)
    have hitems := hr ▸ scanItem_of_spelt hs rest fuel (by omega)
    rw [← scanItems_comma hb' hr hc] at hitems
    have hcs : b ++ cs ++ b' ++ ',' :: ds ++ ']' :: rest =
        b ++ cs ++ (b' ++ ',' :: (ds ++ ']' :: rest)) := by simp
    rw [hcs, skipBlank_spelt h hb]
    exact scanItem_eq hvalue (fault_of_spelt h) hitems
termination_by fuel

/-- Members are scanned to the end of their object. -/
theorem scanMember_of_spelt {ms : List (Node × Node)} {cs : List Char} (h : MembersSpelt ms cs)
    (rest : List Char) (fuel : Nat) (hfuel : 2 * cs.length + 1 ≤ fuel) :
    scanMember fuel (skipBlank (cs ++ '\x7d' :: rest)) = (ms, none, rest) := by
  cases h with
  | last h =>
    obtain @⟨ps, v, b, ks, b', ds, hb, hkey, hb', hv⟩ := h
    obtain @⟨v, d, ds, d', hd, hv, hd'⟩ := hv
    have hpos := length_pos_of_spelt hv
    simp only [List.length_append, List.length_cons] at hfuel
    obtain ⟨fuel, rfl⟩ := Nat.exists_eq_add_of_le' (show 2 ≤ fuel by omega)
    have hvalue := scanValue_of_spelt hv hd
      (ends_blank hd' (ends_brace rest)) (fuel + 1) (by omega)
    rw [← List.append_assoc] at hvalue
    exact scanMember_eq hb hkey hb' hvalue (fault_of_spelt hv) (scanMembers_end hd' fuel _ rest)
  | @cons m ms cs ts h hs =>
    obtain @⟨ps, v, b, ks, b', ds, hb, hkey, hb', hv⟩ := h
    obtain @⟨v, d, ds, d', hd, hv, hd'⟩ := hv
    have hpos := length_pos_of_spelt hv
    simp only [List.length_append, List.length_cons] at hfuel
    obtain ⟨fuel, rfl⟩ := Nat.exists_eq_add_of_le' (show 2 ≤ fuel by omega)
    have hvalue := scanValue_of_spelt hv hd
      (ends_blank hd' (ends_comma (ts ++ '\x7d' :: rest))) (fuel + 1) (by omega)
    obtain ⟨r, hr⟩ := skipBlank_members hs ('\x7d' :: rest)
    have hmembers := hr ▸ scanMember_of_spelt hs rest fuel (by omega)
    rw [← scanMembers_comma hd' hr] at hmembers
    rw [← List.append_assoc] at hvalue
    rw [List.append_assoc _ (',' :: ts), List.cons_append]
    exact scanMember_eq hb hkey hb' hvalue (fault_of_spelt hv) hmembers
termination_by fuel

end

end Node

/-- A whole text is scanned: a value with blanks around it, and nothing behind it. -/
theorem Document.scan_of_padded {n : Node} {cs : List Char} (h : n.Padded cs) :
    Document.scan cs = ⟨n, false⟩ := by
  obtain @⟨n, b, cs, b', hb, h, hb'⟩ := h
  have hends : Ends b' := by simpa using Node.ends_blank hb' Node.ends_nil
  have hvalue := Node.scanValue_of_spelt h hb hends (4 * (b ++ cs ++ b').length + 4)
    (by simp only [List.length_append]; omega)
  rw [Document.scan, Node.scan, hvalue]
  simp [Node.skipBlank_blank hb']

end BookFeed.Json
