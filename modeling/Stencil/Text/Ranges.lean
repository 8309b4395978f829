/-! # Sets of characters given by their bounds

A property of characters is a sorted list of numbers: the property begins to hold
at the first, ceases at the second, begins again at the third, and so on.
-/

namespace Stencil.Text

/-- Whether a number lies in the set whose bounds are given, where `inside` says whether the numbers
before the first bound do. -/
def within (n : Nat) (inside : Bool) : List Nat → Bool
  | [] => inside
  | bound :: rest => if n < bound then inside else within n (!inside) rest

/-- Whether a character lies in the set with the given bounds. -/
def isIn (bounds : List Nat) (c : Char) : Bool := within c.toNat false bounds

end Stencil.Text
