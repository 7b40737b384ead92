/-!
# Numbers to interpolate with

The operations on numbers that stop functions and zoom levels are computed with. The library runs on
doubles; the formulas themselves ask for no more than this interface, so that they can be read in
exact arithmetic as well.
-/

namespace MapStyling

/-- Arithmetic, logarithm, power and comparisons of numbers. A number that is not equal to itself
stands for no number. -/
class Scalar (α : Type) extends Add α, Sub α, Mul α, Div α where
  /-- A whole number. -/
  ofNat : Nat → α
  /-- The power of a base to an exponent. -/
  pow : α → α → α
  /-- The natural logarithm. -/
  ln : α → α
  /-- Equality. -/
  eq : α → α → Bool
  /-- Order. -/
  lt : α → α → Bool
  /-- Order or equality. -/
  le : α → α → Bool

/-- Whether a number stands for no number. -/
def Scalar.isNaN {α : Type} [Scalar α] (x : α) : Bool :=
  !Scalar.eq x x

instance : Scalar Float where
  ofNat := Float.ofNat
  pow := Float.pow
  ln := Float.log
  eq x y := x == y
  lt x y := x < y
  le x y := x ≤ y

end MapStyling
