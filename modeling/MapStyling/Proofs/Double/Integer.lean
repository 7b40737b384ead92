import MapStyling.Proofs.Double.Order
import MapStyling.Json

/-!
# Integers as doubles

The double of an integer is never NaN, however large the integer is (`Double.isNaN_floatOfInt`). With
that no number of a JSON text is NaN (`Json.isNaN_of_float?`).

Rounding yields a number (`Double.roundWithAccuracy_ne`), and packing keeps it one
(`Double.isNaN_pack`). The double of an integer is rounded and packed, and for some integers then
multiplied by one or negated; neither makes it NaN.
-/

namespace MapStyling

namespace Double

open Float.Model Float.Model.UnpackedFloat

/-! ## Packing -/

theorem packedInfinity_ne (s : Sign) : packedInfinity .binary64 s ≠ packedNaN .binary64 := by
  intro heq
  have hmantissa := congrArg unpackMantissa heq
  rw [packedInfinity, packedNaN, unpackMantissa_packComponents, unpackMantissa_packComponents]
    at hmantissa
  exact absurd hmantissa (by decide)

/-- Bits whose exponent does not stand for infinity are not those of NaN. -/
theorem packComponents_ne {s : Sign} {e : BitVec 11} {m : BitVec 52} (he : e ≠ -1#11) :
    packComponents .binary64 s e m ≠ packedNaN .binary64 := by
  intro heq
  have hexponent := congrArg unpackExponent heq
  rw [packedNaN, unpackExponent_packComponents, unpackExponent_packComponents] at hexponent
  exact he hexponent

/-- Packing makes no NaN of a number. -/
theorem pack_ne {u : UnpackedFloat} (h : u ≠ .notANumber) :
    UnpackedFloat.pack .binary64 u ≠ packedNaN .binary64 := by
  match u with
  | .notANumber => exact absurd rfl h
  | .infinity s => exact packedInfinity_ne s
  | .zero s => exact packComponents_ne (by decide)
  | .finite s m e hm =>
    unfold UnpackedFloat.pack
    extract_lets bits biased
    split
    · exact packedInfinity_ne s
    · next hsmall =>
      split
      · refine packComponents_ne fun heq => hsmall ?_
        have hall : biased % 2 ^ 11 = 2047 := congrArg BitVec.toNat heq
        show 2 ^ 11 ≤ biased + 1
        omega
      · exact packComponents_ne (by decide)

theorem isNaN_pack {u : UnpackedFloat} (h : u ≠ .notANumber) :
    (Float.ofModel (Float.Model.pack u)).isNaN = false := by
  rw [isNaN_eq_false_iff]
  intro heq
  exact pack_ne h ((unpack_eq_notANumber_iff_of_valid valid_pack).mp heq)

/-- Rounding yields a number. -/
theorem roundWithAccuracy_ne (s : Sign) (m : Nat) (e : Int) (accuracy : Accuracy) :
    roundWithAccuracy .binary64 s m e accuracy ≠ .notANumber := by
  unfold roundWithAccuracy
  dsimp only
  split <;> exact UnpackedFloat.noConfusion

/-! ## Operations -/

theorem isNaN_neg {x : Float} (h : x.isNaN = false) : (-x).isNaN = false := by
  refine isNaN_pack ?_
  have hx := (isNaN_eq_false_iff x).mp h
  cases hu : x.toModel.unpack with
  | notANumber => exact absurd hu hx
  | infinity s => exact UnpackedFloat.noConfusion
  | zero s => exact UnpackedFloat.noConfusion
  | finite s m e hm => exact UnpackedFloat.noConfusion

/-- A number times one is a number. -/
theorem isNaN_mul_one {x : Float} (h : x.isNaN = false) :
    (x * Float.ofBits 0x3FF0000000000000).isNaN = false := by
  refine isNaN_pack ?_
  have hone : (Float.ofBits 0x3FF0000000000000).toModel.unpack =
      .finite .positive (2 ^ 52) (-52) (by decide) := rfl
  rw [hone]
  have hx := (isNaN_eq_false_iff x).mp h
  cases hu : x.toModel.unpack with
  | notANumber => exact absurd hu hx
  | infinity s => exact UnpackedFloat.noConfusion
  | zero s => exact UnpackedFloat.noConfusion
  | finite s m e hm => exact roundWithAccuracy_ne _ _ _ _

theorem normalize_ne (m e : Int) (zero : Sign) :
    UnpackedFloat.normalize .binary64 m e zero ≠ .notANumber := by
  unfold UnpackedFloat.normalize
  split
  · exact roundWithAccuracy_ne _ _ _ _
  · exact UnpackedFloat.noConfusion
  · exact roundWithAccuracy_ne _ _ _ _

theorem isNaN_ofUInt64 (n : UInt64) : n.toFloat.isNaN = false :=
  isNaN_pack (normalize_ne _ _ _)

theorem ofScientific_ne (m : Nat) : UnpackedFloat.ofScientific .binary64 m 0 ≠ .notANumber := by
  unfold UnpackedFloat.ofScientific
  split
  · exact UnpackedFloat.noConfusion
  · have hsmall : ¬ (0 : Int) > 2 ^ Format.binary64.exponentBits := by decide
    have hlarge : ¬ (0 : Int) < -((2 ^ Format.binary64.exponentBits : Int) + m.log2) := by
      have hpower : (2 ^ Format.binary64.exponentBits : Int) = 2048 := rfl
      omega
    rw [if_neg hsmall, if_neg hlarge, if_pos (Int.le_refl 0), UnpackedFloat.mul]
    exact roundWithAccuracy_ne _ _ _ _

theorem isNaN_ofScientific (n : Nat) : (Float.ofScientific n false 0).isNaN = false := by
  unfold Float.ofScientific
  split
  · exact isNaN_mul_one (isNaN_ofUInt64 _)
  · exact isNaN_pack (ofScientific_ne n)

/-- The double of an integer is a number. -/
theorem isNaN_floatOfInt (i : Int) : (Decimal.floatOfInt i).isNaN = false := by
  unfold Decimal.floatOfInt
  split
  · exact isNaN_neg (isNaN_ofScientific _)
  · exact isNaN_ofScientific _

end Double

theorem Json.Number.isNaN_toFloat (n : Json.Number) : n.toFloat.isNaN = false := by
  cases n with
  | integer i => exact Double.isNaN_floatOfInt i
  | float x finite =>
    refine (Double.isNaN_eq_false_iff x).mpr fun hnan => ?_
    have hfinite : x.toModel.unpack.isFinite = true := finite
    rw [hnan] at hfinite
    cases hfinite

/-- No number of a JSON text is NaN. -/
theorem Json.isNaN_of_float? {json : Json} {x : Float} (h : json.float? = some x) :
    x.isNaN = false := by
  cases json with
  | number n =>
    cases h
    exact n.isNaN_toFloat
  | null | bool _ | string _ | array _ | object _ => cases h

end MapStyling
