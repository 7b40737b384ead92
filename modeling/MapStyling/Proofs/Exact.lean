import Mathlib
import MapStyling.Scalar

/-!
# Exact numbers

The formulas for zoom levels and stops ask little of numbers, and can be read in an ordered field,
in which no operation rounds (`Scalar.exact`). What a power and a logarithm are is left open there;
of a logarithm it is only asked that it is zero at one and ascends on the positive numbers
(`IsLogarithm`).
-/

namespace MapStyling

variable {K : Type} [Field K] [LinearOrder K]

/-- The numbers of an ordered field, with a power and a logarithm of one's own. -/
@[reducible] def Scalar.exact (pow : K → K → K) (ln : K → K) : Scalar K where
  ofNat n := n
  pow := pow
  ln := ln
  eq x y := x = y
  lt x y := x < y
  le x y := x ≤ y

/-- A function is zero at one and strictly ascends on the positive numbers. -/
structure IsLogarithm (ln : K → K) : Prop where
  one : ln 1 = 0
  strictMonoOn : StrictMonoOn ln (Set.Ioi 0)

namespace IsLogarithm

variable {ln : K → K} {a b : K}

theorem ln_div_self (h : IsLogarithm ln) (ha : 0 < a) : ln (a / a) = 0 := by
  rw [div_self ha.ne', h.one]

variable [IsStrictOrderedRing K]

/-- The logarithm of a quotient strictly descends in the divisor. -/
theorem strictAntiOn_ln_div (h : IsLogarithm ln) (ha : 0 < a) :
    StrictAntiOn (fun r => ln (a / r)) (Set.Ioi 0) := by
  intro r hr s hs hrs
  exact h.strictMonoOn (div_pos ha hs) (div_pos ha hr) (div_lt_div_of_pos_left ha hr hrs)

theorem ln_div_pos (h : IsLogarithm ln) (hb : 0 < b) (hab : b < a) : 0 < ln (a / b) := by
  have ha : 0 < a := hb.trans hab
  rw [← h.ln_div_self ha]
  exact h.strictAntiOn_ln_div ha hb ha hab

end IsLogarithm

end MapStyling
