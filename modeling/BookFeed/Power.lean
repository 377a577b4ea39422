set_option autoImplicit false

/-!
# Powers

The powers of ten that scale decimals and the powers of two that bound words and scale doubles,
as functions of one natural number.

## Main definitions

* `BookFeed.tenPow`, `BookFeed.twoPow` — the powers of ten and of two.
-/

namespace BookFeed

/-- A power of ten. -/
def tenPow (n : Nat) : Nat := Nat.pow 10 n

/-- A power of two. -/
def twoPow (n : Nat) : Nat := Nat.pow 2 n

/-- The first power of ten is one. -/
theorem tenPow_zero : tenPow 0 = 1 := rfl

/-- The next power of ten is ten times as large. -/
theorem tenPow_succ (n : Nat) : tenPow (n + 1) = tenPow n * 10 := rfl

/-- Powers of ten are multiplied by adding what they are raised to. -/
theorem tenPow_add (m n : Nat) : tenPow (m + n) = tenPow m * tenPow n := Nat.pow_add 10 m n

/-- A power of ten can be divided by. -/
theorem tenPow_pos (n : Nat) : 0 < tenPow n := Nat.pow_pos (by decide)

/-- The first power of two is one. -/
theorem twoPow_zero : twoPow 0 = 1 := rfl

/-- The next power of two is twice as large. -/
theorem twoPow_succ (n : Nat) : twoPow (n + 1) = twoPow n * 2 := rfl

/-- A power of two can be divided by. -/
theorem twoPow_pos (n : Nat) : 0 < twoPow n := Nat.pow_pos (by decide)

end BookFeed
