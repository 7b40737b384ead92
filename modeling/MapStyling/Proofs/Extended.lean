import MapStyling.Proofs.Exact

/-!
# Exact numbers with infinities

Beside numbers, doubles have two infinities and NaN. `Extended` adds these to an ordered field and
computes with them as doubles do, but for rounding: no operation on numbers rounds, none is too large,
and zero has one sign. The formulas for stops and zoom levels can be read in extended numbers
(`Scalar.extended`). What a power and a logarithm are is left open; of the powers of a base it is only
asked that they ascend or descend with the exponent, as the base is above or below one (`IsPower`).
Those of a positive real number do (`isPower_rpow`).
-/

namespace MapStyling

/-- A number of an ordered field, an infinity, or NaN. -/
inductive Extended (K : Type) where
  | number (x : K)
  | infinity (negative : Bool)
  | nan

namespace Extended

variable {K : Type} [Field K] [LinearOrder K]

/-- The sum. Infinities of different signs have none. -/
def add : Extended K → Extended K → Extended K
  | .number x, .number y => .number (x + y)
  | .infinity s, .infinity t => if s = t then .infinity s else .nan
  | .infinity s, .number _ | .number _, .infinity s => .infinity s
  | .nan, _ | _, .nan => .nan

/-- The difference. Infinities of one sign have none. -/
def sub : Extended K → Extended K → Extended K
  | .number x, .number y => .number (x - y)
  | .infinity s, .infinity t => if s = t then .nan else .infinity s
  | .infinity s, .number _ => .infinity s
  | .number _, .infinity s => .infinity !s
  | .nan, _ | _, .nan => .nan

/-- The product. An infinity and zero have none. -/
def mul : Extended K → Extended K → Extended K
  | .number x, .number y => .number (x * y)
  | .infinity s, .infinity t => .infinity (s != t)
  | .infinity s, .number x | .number x, .infinity s =>
    if x = 0 then .nan else .infinity (s != decide (x < 0))
  | .nan, _ | _, .nan => .nan

/-- The quotient. Two infinities have none, nor have two zeros. -/
def div : Extended K → Extended K → Extended K
  | .number x, .number y =>
    if y = 0 then if x = 0 then .nan else .infinity (decide (x < 0)) else .number (x / y)
  | .infinity s, .number y => .infinity (s != decide (y < 0))
  | .number _, .infinity _ => .number 0
  | .infinity _, .infinity _ => .nan
  | .nan, _ | _, .nan => .nan

/-- Equality. NaN is equal to nothing. -/
def eq : Extended K → Extended K → Bool
  | .number x, .number y => x = y
  | .infinity s, .infinity t => s = t
  | _, _ => false

/-- Order or equality. NaN is below nothing and above nothing. -/
def le : Extended K → Extended K → Bool
  | .number x, .number y => x ≤ y
  | .infinity s, .infinity t => s || !t
  | .infinity s, .number _ => s
  | .number _, .infinity t => !t
  | .nan, _ | _, .nan => false

/-- Order. -/
def lt (x y : Extended K) : Bool :=
  x.le y && !y.le x

instance : LE (Extended K) where
  le x y := x.le y = true

omit [Field K] in
@[simp] theorem number_le_number (x y : K) : number x ≤ number y ↔ x ≤ y :=
  decide_eq_true_iff

omit [Field K] [LinearOrder K] in
@[simp] theorem number_ne_nan (x : K) : number x ≠ nan :=
  nofun

omit [Field K] in
/-- Only numbers and infinities are in order. -/
theorem ne_nan_of_le {x y : Extended K} (h : x ≤ y) : x ≠ .nan ∧ y ≠ .nan := by
  change le x y = true at h
  cases x <;> cases y <;> simp [le] at h ⊢

omit [Field K] in
protected theorem le_trans {x y z : Extended K} (hxy : x ≤ y) (hyz : y ≤ z) : x ≤ z := by
  change le x y = true at hxy
  change le y z = true at hyz
  change le x z = true
  cases x <;> cases y <;> cases z <;> simp_all [le]
  case number.number.number => exact hxy.trans hyz
  case infinity.infinity.infinity s t _ => cases t <;> simp_all

omit [Field K] in
theorem number_le_of_not_le {x : Extended K} {a : K} (hx : x ≠ .nan) (h : ¬ x ≤ .number a) :
    .number a ≤ x := by
  cases x with
  | number r => exact (number_le_number a r).mpr (le_of_not_ge fun hle => h (decide_eq_true hle))
  | infinity negative =>
    cases negative
    · rfl
    · exact absurd rfl h
  | nan => exact absurd rfl hx

omit [Field K] in
/-- What is above some number, but not above all, is a number. -/
theorem exists_number {x : Extended K} {lower upper : K} (hlow : .number lower ≤ x)
    (hhigh : ¬ .number upper ≤ x) : ∃ r, x = .number r := by
  cases x with
  | number r => exact ⟨r, rfl⟩
  | infinity negative =>
    cases negative
    · exact absurd rfl hhigh
    · cases hlow
  | nan => cases hlow

end Extended

section Scalar

variable {K : Type} [Field K] [LinearOrder K]

/-- Extended numbers, with a power and a logarithm of one's own. -/
@[reducible] def Scalar.extended (pow : Extended K → Extended K → Extended K)
    (ln : Extended K → Extended K) : Scalar (Extended K) where
  add := Extended.add
  sub := Extended.sub
  mul := Extended.mul
  div := Extended.div
  ofNat n := .number n
  pow := pow
  ln := ln
  eq := Extended.eq
  lt := Extended.lt
  le := Extended.le

theorem Scalar.isNaN_extended {pow : Extended K → Extended K → Extended K}
    {ln : Extended K → Extended K} {x : Extended K} (hx : x ≠ .nan) :
    @Scalar.isNaN _ (.extended pow ln) x = false := by
  have heq : x.eq x = true := by
    cases x with
    | number | infinity => exact decide_eq_true rfl
    | nan => exact absurd rfl hx
  exact congrArg (!·) heq

/-- The powers of a base to numbers are numbers. That to zero is one, and they strictly ascend with the
exponent if the base is above one, and descend if it is below. -/
structure IsPower (pow : Extended K → Extended K → Extended K) (base : K) (power : K → K) : Prop where
  number : ∀ exponent, pow (.number base) (.number exponent) = .number (power exponent)
  zero : power 0 = 1
  strictMono : 1 < base → StrictMono power
  strictAnti : base < 1 → StrictAnti power

/-- Only the power to zero is one, unless the base is one. -/
theorem IsPower.sub_one_ne_zero {pow : Extended K → Extended K → Extended K} {base exponent : K}
    {power : K → K} (h : IsPower pow base power) (hbase : base ≠ 1) (hexponent : exponent ≠ 0) :
    power exponent - 1 ≠ 0 := by
  rw [← h.zero, sub_ne_zero]
  rcases hbase.lt_or_gt with hlt | hgt
  · exact (h.strictAnti hlt).injective.ne hexponent
  · exact (h.strictMono hgt).injective.ne hexponent

end Scalar

/-- Powers of positive real numbers to real numbers. -/
noncomputable def Extended.rpow : Extended ℝ → Extended ℝ → Extended ℝ
  | .number base, .number exponent => .number (base ^ exponent)
  | _, _ => .nan

/-- The natural logarithm of real numbers and infinities. -/
noncomputable def Extended.log : Extended ℝ → Extended ℝ
  | .number x => if x = 0 then .infinity true else if x < 0 then .nan else .number (Real.log x)
  | .infinity false => .infinity false
  | _ => .nan

theorem isPower_rpow {base : ℝ} (h : 0 < base) : IsPower Extended.rpow base (base ^ ·) where
  number _ := rfl
  zero := Real.rpow_zero base
  strictMono := Real.strictMono_rpow_of_base_gt_one
  strictAnti := Real.strictAnti_rpow_of_base_lt_one h

end MapStyling
