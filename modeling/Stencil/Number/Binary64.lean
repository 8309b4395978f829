/-! # Finite binary64 numbers

Every finite binary64 number is a whole number of units of `2 ^ -1074` with a
sign, zero having both. Arithmetic is exact on units and then rounded to the
53 leading bits, the even neighbour taking a tie.
-/

namespace Stencil

/-- A finite binary64 number: its sign, and its size in units of `2 ^ -1074`. -/
structure Binary64 where
  negative : Bool
  units : Nat
deriving DecidableEq

namespace Binary64

/-- How many units make one. -/
def one : Nat := Nat.pow 2 1074

/-- The first size that no finite number has. -/
def bound : Nat := Nat.pow 2 2098

/-- The distance between neighbouring numbers that are `units` in size or a little more. -/
def gap (units : Nat) : Nat := Nat.pow 2 (units.log2 - 52)

/-- The whole number nearest to a ratio, the even one of two. -/
def nearest (numerator denominator : Nat) : Nat :=
  let quotient := numerator / denominator
  let rest := 2 * (numerator % denominator)
  if rest > denominator ∨ (rest = denominator ∧ quotient % 2 = 1) then quotient + 1
  else quotient

/-- The size nearest to a ratio of units; it may reach the bound. -/
def round (numerator denominator : Nat) : Nat :=
  let step := gap (numerator / denominator)
  nearest numerator (denominator * step) * step

/-- The size of a natural number. -/
def ofNat (n : Nat) : Nat := round (n * one) 1

/-- The size of a power of ten. -/
def powerOfTen (exponent : Nat) : Nat := ofNat (Nat.pow 10 exponent)

/-- The product of two sizes. -/
def multiply (first second : Nat) : Nat := round (first * second) one

/-- The quotient of two sizes. -/
def divide (first second : Nat) : Nat := round (first * one) second

/-- The number of a sign and a size, if the size is finite. -/
def ofUnits? (negative : Bool) (units : Nat) : Option Binary64 :=
  if units < bound then some ⟨negative, units⟩ else none

end Binary64

end Stencil
