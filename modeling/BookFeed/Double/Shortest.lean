import BookFeed.Double.Basic

set_option autoImplicit false

/-!
# The shortest decimal that names a double

All reals between the two midpoints to the neighbouring doubles round to a double; the midpoints
themselves do if its mantissa is even. Among the decimals in that interval those with the fewest
digits are taken, and of those the nearest one. If two are equally near, the layout decides:
numbers without an exponent take the larger one, messages the one with an even last digit.

## Main definitions

* `BookFeed.Double.Tie` — which of two equally near decimals is taken.
* `BookFeed.Double.Magnitude.contains` — whether a fraction rounds to the double.
* `BookFeed.Double.Magnitude.shortest` — the digits, and the power of ten of the first one.
* `BookFeed.Double.plainText` — without an exponent.
* `BookFeed.Double.messageText` — with a point always, and with an exponent for very large and
  very small numbers.
-/

namespace BookFeed.Double

/-- Which of two equally near decimals is taken. -/
inductive Tie where
  /-- The larger one. -/
  | up
  /-- The one with an even last digit. -/
  | toEven

/-- Whether the upper one of `a` and `a + 1` is taken if they are equally near. -/
def Tie.takesUpper : Tie → Nat → Bool
  | .up, _ => true
  | .toEven, a => a % 2 == 1

namespace Magnitude

/-- Whether the double below is only half as far away as the one above. -/
def narrowBelow (x : Magnitude) : Bool :=
  x.mantissa == twoPow 52 && leastExponent < x.exponent

/-- Whether `n / d` lies in the interval of reals that round to `x`. -/
def contains (x : Magnitude) (n d : Nat) : Bool :=
  let scaled (k : Nat) : Nat := k * twoPow (x.exponent - 2).toNat * d
  let value := n * twoPow (-(x.exponent - 2)).toNat
  let low := scaled (4 * x.mantissa - if x.narrowBelow then 1 else 2)
  let high := scaled (4 * x.mantissa + 2)
  if x.mantissa % 2 = 0 then low ≤ value && value ≤ high else low < value && value < high

/-- The least `k` with `x < 10 ^ k`, for a positive `x`. -/
def decimalSize (x : Magnitude) : Int :=
  let n := x.numerator
  let d := x.denominator
  if d ≤ n then ((Nat.toDigits 10 (n / d)).length : Int)
  else
    let c := (d + n - 1) / n
    1 - ((Nat.toDigits 10 (c - 1)).length : Int)

/-- The decimals `a * 10 ^ k` and `(a + 1) * 10 ^ k` around `x` that round to it, with the
nearer one first. -/
def candidates (x : Magnitude) (tie : Tie) (k : Int) : List Nat :=
  let n := x.numerator * tenPow (-k).toNat
  let d := x.denominator * tenPow k.toNat
  let a := n / d
  let r := n % d
  let upper := d < 2 * r || (2 * r == d && tie.takesUpper a)
  let order := if upper then [a + 1, a] else [a, a + 1]
  order.filter fun c => x.contains (c * tenPow k.toNat) (tenPow (-k).toNat)

/-- The greatest number of digits that a double needs. -/
def maxDigits : Nat := 17

/-- The digits of the shortest decimal, without zeros at their end, and the power of ten that
the first digit stands for. -/
def shortest (x : Magnitude) (tie : Tie) : List Char × Int :=
  if x.isZero then (['0'], 0)
  else
    let size := x.decimalSize
    let found := (List.range maxDigits).findSome? fun (i : Nat) =>
      let k := size - ((i : Int) + 1)
      (x.candidates tie k).head?.map fun c => (c, k)
    let (c, k) := found.getD (x.numerator / x.denominator, 0)
    let ds := Nat.toDigits 10 c
    let shown := (ds.reverse.dropWhile (· == '0')).reverse
    (shown, k + ds.length - 1)

end Magnitude

/-! ### Layout -/

/-- Digits with the point after the digit of weight `10 ^ 0`, where the first digit has weight
`10 ^ e`. -/
def positional (ds : List Char) (e : Int) : List Char × List Char :=
  if 0 ≤ e then
    let n := e.toNat + 1
    (ds.take n ++ List.replicate (n - ds.length) '0', ds.drop n)
  else (['0'], List.replicate ((-e).toNat - 1) '0' ++ ds)

/-- The sign of a number. -/
def signText (x : Double) : List Char := if x.negative then ['-'] else []

/-- The shortest decimal, written without an exponent. -/
def plainText (x : Double) : List Char :=
  let (ds, e) := x.magnitude.shortest .up
  let (whole, fraction) := positional ds e
  x.signText ++ whole ++ (if fraction.isEmpty then [] else '.' :: fraction)

/-- The least power of ten of a first digit that messages write without an exponent. -/
def leastPlainPower : Int := -5

/-- The greatest power of ten of a first digit that messages write without an exponent. -/
def greatestPlainPower : Int := 15

/-- The exponent of a message: a sign and at least two digits. -/
def exponentText (e : Int) : List Char :=
  let ds := Nat.toDigits 10 e.natAbs
  ['e', if e < 0 then '-' else '+'] ++ (if ds.length < 2 then '0' :: ds else ds)

/-- The shortest decimal as messages write it. -/
def messageText (x : Double) : List Char :=
  let (ds, e) := x.magnitude.shortest .toEven
  if leastPlainPower ≤ e ∧ e ≤ greatestPlainPower then
    let (whole, fraction) := positional ds e
    x.signText ++ whole ++ '.' :: (if fraction.isEmpty then ['0'] else fraction)
  else
    x.signText ++ ds.take 1 ++ (if ds.length = 1 then [] else '.' :: ds.drop 1) ++ exponentText e

end BookFeed.Double
