set_option autoImplicit false

/-!
# Rounded quotients

Integer quotients rounded to the nearest integer. Exact halves go to the even neighbour.

## Main definitions

* `BookFeed.Rounding.toEven` — for naturals.
* `BookFeed.Rounding.intToEven` — for an integer over a natural.
-/

namespace BookFeed.Rounding

/-- The quotient `n / d`, rounded to nearest with ties to the even neighbour. -/
def toEven (n d : Nat) : Nat :=
  let q := n / d
  let r := n % d
  if 2 * r < d then q
  else if d < 2 * r then q + 1
  else if q % 2 = 0 then q else q + 1

/-- The quotient `c / d` by magnitude, rounded to nearest with ties to the even neighbour. -/
def intToEven (c : Int) (d : Nat) : Int :=
  if c < 0 then -(toEven c.natAbs d : Int) else (toEven c.natAbs d : Int)

end BookFeed.Rounding
