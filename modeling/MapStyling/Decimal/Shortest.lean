/-!
# The shortest decimal that reads back

A finite double is a whole multiple of a power of two, and the reals that round to it form an
interval around it. Among the decimals in that interval this module picks one with the fewest
digits, and of those the nearest to the double (`Decimal.shortest`). All of it is exact arithmetic
on natural numbers.
-/

namespace MapStyling

/-- A decimal numeral: plus or minus `digits * 10 ^ exponent`. -/
structure Decimal where
  negative : Bool
  digits : Nat
  exponent : Int
deriving DecidableEq, Repr

namespace Decimal

/-- Which of two equally near decimals is taken. -/
inductive Tie where
  /-- The larger magnitude. -/
  | up
  /-- The one whose last digit is even. -/
  | even
deriving DecidableEq, Repr

/-- A positive double: `significand * 2 ^ exponent`. Below a power of two the doubles lie twice as
close as above it, and `narrowBelow` says that this is such a power. -/
structure Binary where
  significand : Nat
  exponent : Int
  narrowBelow : Bool
deriving DecidableEq, Repr

/-- The sign bit of a double. -/
def signBit : Nat := 0x8000000000000000

/-- The bit above the fraction of a double, which is not stored. -/
def leadingBit : Nat := 0x10000000000000

/-- The magnitude of a finite double. -/
def Binary.ofFloat (x : Float) : Binary :=
  let bits : Nat := x.toBits.toNat
  let fraction : Nat := bits % leadingBit
  let power : Nat := bits / leadingBit % 2048
  if power = 0 then ⟨fraction, -1074, false⟩
  else ⟨fraction + leadingBit, power - 1075, fraction = 0 ∧ 1 < power⟩

/-- A value among the multiples of a grid step, with the ends of the interval that rounds to the
value; all four are counts of one common unit. -/
structure Grid where
  value : Nat
  lower : Nat
  upper : Nat
  closed : Bool
  step : Nat

/-- Whether the multiple `d` of the step rounds to the value. -/
def Grid.holds (g : Grid) (d : Nat) : Bool :=
  if g.closed then g.lower ≤ d * g.step ∧ d * g.step ≤ g.upper
  else g.lower < d * g.step ∧ d * g.step < g.upper

/-- The multiple nearest to the value that rounds to it. If any multiple does, then one of the two
neighbours of the value does. -/
def Grid.nearest? (tie : Tie) (g : Grid) : Option Nat :=
  let d := g.value / g.step
  match g.holds d, g.holds (d + 1) with
  | false, false => none
  | true, false => some d
  | false, true => some (d + 1)
  | true, true =>
    match compare (g.value - d * g.step) ((d + 1) * g.step - g.value) with
    | .lt => some d
    | .gt => some (d + 1)
    | .eq =>
      match tie with
      | .up => some (d + 1)
      | .even => some (if d % 2 = 0 then d else d + 1)

/-- The grid of the multiples of `10 ^ power` around a double. The unit is a quarter of the double's
own unit, so that the half gaps to its neighbours are whole. -/
def Binary.grid (b : Binary) (power : Int) : Grid :=
  let twos := b.exponent - 2
  let scale := Nat.pow 2 twos.toNat * Nat.pow 10 (-power).toNat
  { value := 4 * b.significand * scale
    lower := (4 * b.significand - if b.narrowBelow then 1 else 2) * scale
    upper := (4 * b.significand + 2) * scale
    closed := b.significand % 2 = 0
    step := Nat.pow 2 (-twos).toNat * Nat.pow 10 power.toNat }

/-- A power of ten with more than the magnitude of the double: `log₁₀ 2` is a little less than
`30103 / 100000`. -/
def Binary.topPower (b : Binary) : Int :=
  (b.significand.log2 + 1 + b.exponent) * 30103 / 100000 + 1

/-- The digits and the power of ten on the coarsest grid that has a decimal for the double.
Seventeen digits always suffice. -/
def Binary.shortest (tie : Tie) (b : Binary) : Nat × Int :=
  let top := b.topPower
  ((List.range 20).findSome? fun (i : Nat) =>
    let power := top - i
    ((b.grid power).nearest? tie).map (·, power)).getD (b.significand, 0)

/-- Drops trailing zeros of a numeral's digits; the fuel bounds their number. -/
def stripZeros : Nat → Nat → Int → Nat × Int
  | 0, d, e => (d, e)
  | fuel + 1, d, e => if d ≠ 0 ∧ d % 10 = 0 then stripZeros fuel (d / 10) (e + 1) else (d, e)

/-- The shortest decimal that reads back as a finite double, without trailing zeros. -/
def shortest (tie : Tie) (x : Float) : Decimal :=
  let negative : Bool := signBit ≤ x.toBits.toNat
  let b := Binary.ofFloat x
  if b.significand = 0 then ⟨negative, 0, 0⟩
  else
    let (d, e) := b.shortest tie
    let (d, e) := stripZeros 20 d e
    ⟨negative, d, e⟩

end Decimal

end MapStyling
