set_option autoImplicit false

/-!
# Punycode

A label of a domain name that is not ASCII travels as ASCII: first its ASCII characters, then
for each other character, in ascending order, how far to go on from the place of the one before.
These distances are written in base 36 with the least digit first; where a number ends is told
by thresholds that follow the size of the distances so far.

## Main definitions

* `BookFeed.Url.Punycode.encode` — the ASCII form.
* `BookFeed.Url.Punycode.decode?` — the label of an ASCII form.
-/

namespace BookFeed.Url.Punycode

/-- A digit in base 36: letters first, then the decimal digits. -/
def digit (n : Nat) : Char :=
  if n < 26 then Char.ofNat (0x61 + n) else Char.ofNat (0x16 + n)

/-- The value of a digit. -/
def digitValue? (c : Char) : Option Nat :=
  if 'a' ≤ c && c ≤ 'z' then some (c.toNat - 0x61)
  else if 'A' ≤ c && c ≤ 'Z' then some (c.toNat - 0x41)
  else if '0' ≤ c && c ≤ '9' then some (c.toNat - 0x16)
  else none

/-- The threshold of the digit of weight class `k`: a smaller digit is the last of its
number. -/
def threshold (bias k : Nat) : Nat := min 26 (max 1 (k - bias))

/-- A threshold is between one and 26. -/
theorem threshold_bounds (bias k : Nat) : 1 ≤ threshold bias k ∧ threshold bias k ≤ 26 := by
  unfold threshold
  omega

/-- How often 35 divides a distance before it is small, and what remains. -/
def scaleDown (delta classes : Nat) : Nat × Nat :=
  if 455 < delta then scaleDown (delta / 35) (classes + 36) else (delta, classes)
termination_by delta

/-- The bias after a distance, for a label with a number of characters so far. -/
def adapt (first : Bool) (delta count : Nat) : Nat :=
  let damped := if first then delta / 700 else delta / 2
  let (rest, classes) := scaleDown (damped + damped / count) 0
  classes + 36 * rest / (rest + 38)

/-- A distance as digits. -/
def distanceText (bias k n : Nat) : List Char :=
  let t := threshold bias k
  if n < t then [digit n]
  else digit (t + (n - t) % (36 - t)) :: distanceText bias (k + 36) ((n - t) / (36 - t))
termination_by n
decreasing_by
  have h := threshold_bounds bias k
  have := Nat.div_le_self (n - threshold bias k) (36 - threshold bias k)
  omega

/-- A label on its way to the ASCII form. -/
structure Progress where
  /-- What is written. -/
  written : List Char
  /-- The distance so far. -/
  delta : Nat
  /-- The bias. -/
  bias : Nat
  /-- How many characters are placed. -/
  placed : Nat

/-- Pass one character of the label while characters of a code are being placed. -/
def pass (ascii code : Nat) (p : Progress) (c : Char) : Progress :=
  if c.toNat < code then { p with delta := p.delta + 1 }
  else if c.toNat == code then
    { written := p.written ++ distanceText p.bias 36 p.delta
      delta := 0
      bias := adapt (p.placed == ascii) p.delta (p.placed + 1)
      placed := p.placed + 1 }
  else p

/-- Place the characters of one code, given the code where the last round stopped. -/
def round (label : List Char) (ascii : Nat) : Progress × Nat → Nat → Progress × Nat
  | (p, start), code =>
    let p := { p with delta := p.delta + (code - start) * (p.placed + 1) }
    let p := label.foldl (pass ascii code) p
    ({ p with delta := p.delta + 1 }, code + 1)

/-- The ASCII form of a label. -/
def encode (label : List Char) : List Char :=
  let ascii := label.filter (·.toNat < 0x80)
  let codes := ((label.filter (0x80 ≤ ·.toNat)).map Char.toNat).mergeSort.eraseDups
  let mark := if ascii.isEmpty then [] else ['-']
  let start : Progress := ⟨[], 0, 72, ascii.length⟩
  ascii ++ mark ++ (codes.foldl (round label ascii.length) (start, 0x80)).1.written

/-- Read a distance: its value, and what follows it. -/
def readDistance (bias k weight : Nat) : List Char → Option (Nat × List Char)
  | [] => none
  | c :: rest => do
    let d ← digitValue? c
    let t := threshold bias k
    if d < t then pure (d * weight, rest)
    else do
      let (n, rest) ← readDistance bias (k + 36) (weight * (36 - t)) rest
      pure (d * weight + n, rest)

/-- Reading a distance takes at least one character. -/
theorem readDistance_length {bias k weight n : Nat} {cs rest : List Char}
    (h : readDistance bias k weight cs = some (n, rest)) : rest.length < cs.length := by
  induction cs generalizing k weight n rest with
  | nil => simp [readDistance] at h
  | cons c cs ih =>
    simp only [readDistance, Option.bind_eq_bind] at h
    cases hd : digitValue? c with
    | none => simp [hd] at h
    | some d =>
      simp only [hd, Option.bind_some] at h
      split at h
      · simp only [Option.pure_def, Option.some.injEq, Prod.mk.injEq] at h
        simp [← h.2]
      · cases hr : readDistance bias (k + 36) (weight * (36 - threshold bias k)) cs with
        | none => simp [hr] at h
        | some r =>
          obtain ⟨m, r⟩ := r
          simp only [hr, Option.bind_some, Option.pure_def, Option.some.injEq,
            Prod.mk.injEq] at h
          have := ih hr
          rw [← h.2, List.length_cons]
          omega

/-- Place the characters that the distances tell of. -/
def readAll (bias position code : Nat) (label : List Char) (cs : List Char) :
    Option (List Char) :=
  if cs.isEmpty then some label
  else match h : readDistance bias 36 1 cs with
    | none => none
    | some (n, rest) =>
      let size := label.length + 1
      let position' := position + n
      let code' := code + position' / size
      if (0xD800 ≤ code' && code' ≤ 0xDFFF) || 0x10FFFF < code' then none
      else
        let place := position' % size
        readAll (adapt (position == 0) n size) (place + 1) code'
          (label.insertIdx place (Char.ofNat code')) rest
termination_by cs.length
decreasing_by exact readDistance_length h

/-- The label of an ASCII form. -/
def decode? (cs : List Char) : Option (List Char) :=
  let tail := cs.reverse.takeWhile (· != '-')
  if tail.length == cs.length then readAll 72 0 0x80 [] cs
  else readAll 72 0 0x80 (cs.take (cs.length - tail.length - 1)) tail.reverse

end BookFeed.Url.Punycode
