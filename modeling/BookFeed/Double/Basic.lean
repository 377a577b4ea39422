import BookFeed.Power
import BookFeed.Rounding

set_option autoImplicit false

/-!
# Double-precision numbers

The finite numbers of the 64-bit binary format, with exact arithmetic on their parts: a sign and
a magnitude `mantissa * 2 ^ exponent` with a mantissa of at most 53 bits and an exponent from
-1074 on. Every operation computes the exact result and rounds it once, to nearest with ties to
even.

## Main definitions

* `BookFeed.Double` — sign, mantissa and exponent.
* `BookFeed.Double.Magnitude.round` — the magnitude nearest to a quotient.
* `BookFeed.Double.ofDecimalParts` — the number that decimal digits and a power of ten name.
-/

namespace BookFeed

/-- A finite non-negative number `mantissa * 2 ^ exponent`. -/
structure Double.Magnitude where
  /-- At most 53 bits. -/
  mantissa : Nat
  /-- The weight of the last bit. -/
  exponent : Int
deriving DecidableEq, Repr

/-- A finite number of the 64-bit binary format. -/
structure Double where
  /-- Whether the sign is minus; zero has a sign too. -/
  negative : Bool
  /-- The number without its sign. -/
  magnitude : Double.Magnitude
deriving DecidableEq, Repr

namespace Double

namespace Magnitude

/-- The weight of the last bit of the smallest numbers. -/
def leastExponent : Int := -1074

/-- The weight of the last bit of the largest numbers. -/
def greatestExponent : Int := 971

/-- Zero. -/
def zero : Magnitude := ⟨0, leastExponent⟩

/-- Whether the magnitude is zero. -/
def isZero (x : Magnitude) : Bool := x.mantissa == 0

/-- The numerator of the magnitude as a fraction. -/
def numerator (x : Magnitude) : Nat := x.mantissa * twoPow x.exponent.toNat

/-- The denominator of the magnitude as a fraction. -/
def denominator (x : Magnitude) : Nat := twoPow (-x.exponent).toNat

/-- The magnitude nearest to `n / d`, or nothing beyond the largest one. -/
def round (n d : Nat) : Option Magnitude :=
  if n = 0 then some zero
  else
    let guess : Int := (Nat.log2 n : Int) - (Nat.log2 d : Int) - 52
    let short : Bool := n * twoPow (-guess).toNat < d * twoPow guess.toNat * twoPow 52
    let e : Int := max (if short then guess - 1 else guess) leastExponent
    let m := Rounding.toEven (n * twoPow (-e).toNat) (d * twoPow e.toNat)
    let x : Magnitude := if m = twoPow 53 then ⟨twoPow 52, e + 1⟩ else ⟨m, e⟩
    if greatestExponent < x.exponent then none else some x

/-- The rounded product. -/
def mul (x y : Magnitude) : Option Magnitude :=
  round (x.numerator * y.numerator) (x.denominator * y.denominator)

/-- The rounded quotient. -/
def div (x y : Magnitude) : Option Magnitude :=
  round (x.numerator * y.denominator) (x.denominator * y.numerator)

/-- The magnitude nearest to `10 ^ k`. -/
def powerOfTen (k : Nat) : Option Magnitude := round (tenPow k) 1

/-- The largest power of ten that has a magnitude. -/
def greatestPower : Nat := 308

/-- Divide by `10 ^ k`, in steps of the largest power of ten; `fuel` bounds the steps, and after
three of them nothing is left of any starting value. -/
def shrink (fuel : Nat) (x : Magnitude) (k : Nat) : Option Magnitude :=
  match fuel with
  | 0 => some zero
  | fuel + 1 =>
    if x.isZero then some x
    else if k ≤ greatestPower then do div x (← powerOfTen k)
    else do shrink fuel (← div x (← powerOfTen greatestPower)) (k - greatestPower)

/-- Multiply by `10 ^ k`, or nothing if that leaves the range. -/
def grow (x : Magnitude) (k : Nat) : Option Magnitude :=
  if x.isZero then some x
  else if k ≤ greatestPower then do mul x (← powerOfTen k)
  else none

/-- The number `digits * 10 ^ k`. The digits are rounded first, and then the product or the
quotient with the power of ten is. -/
def ofDecimalParts (digits : Nat) (k : Int) : Option Magnitude := do
  let x ← round digits 1
  if 0 ≤ k then x.grow k.toNat else x.shrink 4 (-k).toNat

end Magnitude

/-- The signed number `digits * 10 ^ k`, or nothing beyond the largest one. -/
def ofDecimalParts (negative : Bool) (digits : Nat) (k : Int) : Option Double := do
  return ⟨negative, ← Magnitude.ofDecimalParts digits k⟩

end Double

end BookFeed
