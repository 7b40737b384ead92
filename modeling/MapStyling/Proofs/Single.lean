import Mathlib
import MapStyling.Proofs.Double.Order
import MapStyling.Single

/-!
# Single precision up to one

A number up to one is at most one in single precision (`Single.single_le_one`), and so is a product of
two such numbers of which one is not negative (`Single.mul_le_one`). What is not a number stays so
(`Single.isNaN_mul_single`).

Rounding shifts a significand to the right and adds at most one to what is left, and that only where
something was lost. So it does not lead beyond the next multiple of the shift, and one is such a
multiple (`WithinOne.shiftToTargetExponent`). What is packed then has at most the exponent of one
(`isLEOne_pack`).
-/

namespace MapStyling.Single

open Float.Model Float.Model.UnpackedFloat

/-! ## Shifting -/

/-- A significand with an exponent makes at most one. -/
structure WithinOne (m : Nat) (e : Int) : Prop where
  exponent : e ≤ 0
  significand : m ≤ 2 ^ (-e).toNat

/-- What is left of a significand after a shift to the right, and whether anything was lost. -/
theorem shiftRight_spec (m n : Nat) :
    let em := ExtendedMantissa.ofMantissaAndAccuracy m .exact >>> n
    em.mantissa = m / 2 ^ n ∧ ((em.roundBit || em.stickyBit) = true ↔ m % 2 ^ n ≠ 0) := by
  induction n with
  | zero =>
    have hzero : ExtendedMantissa.ofMantissaAndAccuracy m .exact >>> 0 = ⟨m, false, false⟩ := rfl
    rw [hzero]
    exact ⟨(Nat.div_one m).symm, by simp [Nat.mod_one]⟩
  | succ n ih =>
    obtain ⟨hmantissa, hlost⟩ := ih
    have hstep : ExtendedMantissa.ofMantissaAndAccuracy m .exact >>> (n + 1) =
        (ExtendedMantissa.ofMantissaAndAccuracy m .exact >>> n).shiftRightOne := rfl
    rw [hstep]
    constructor
    · show (ExtendedMantissa.ofMantissaAndAccuracy m .exact >>> n).mantissa / 2 = _
      rw [hmantissa, Nat.div_div_eq_div_mul, Nat.pow_succ]
    · -- The bit that is shifted out is the lowest of what the shifts before have left.
      have hmod : m % 2 ^ (n + 1) = m % 2 ^ n + 2 ^ n * (m / 2 ^ n % 2) := by
        rw [Nat.pow_succ, Nat.mod_mul]
      have hbit : 2 ^ n * (m / 2 ^ n % 2) = 0 ↔ m / 2 ^ n % 2 = 0 := by
        rw [Nat.mul_eq_zero, or_iff_right (Nat.two_pow_pos n).ne']
      simp only [ExtendedMantissa.shiftRightOne, Bool.or_eq_true, hmantissa, bne_iff_ne] at hlost ⊢
      rw [hlost, hmod]
      omega

theorem roundedMantissa_le (em : ExtendedMantissa) :
    em.roundedMantissa ≤ em.mantissa + if em.roundBit || em.stickyBit then 1 else 0 := by
  obtain ⟨q, round, sticky⟩ := em
  cases round <;> cases sticky <;>
    simp [ExtendedMantissa.roundedMantissa, ExtendedMantissa.accuracy, Accuracy.roundToNearestEven]
  omega

/-- A shifted and rounded significand is at most the least one above that of the shift. -/
theorem roundedMantissa_shiftRight_le {m n q : Nat} (h : m ≤ q * 2 ^ n) :
    (ExtendedMantissa.ofMantissaAndAccuracy m .exact >>> n).roundedMantissa ≤ q := by
  obtain ⟨hmantissa, hlost⟩ := shiftRight_spec m n
  refine (roundedMantissa_le _).trans ?_
  rw [hmantissa]
  have hpos := Nat.two_pow_pos n
  have hdiv := Nat.div_add_mod m (2 ^ n)
  split
  next hround =>
    have hmod := hlost.mp hround
    have hlt : 2 ^ n * (m / 2 ^ n) < 2 ^ n * q := by
      rw [Nat.mul_comm (2 ^ n) q]
      omega
    exact Nat.lt_of_mul_lt_mul_left hlt
  next => exact Nat.div_le_of_le_mul (by rwa [Nat.mul_comm])

namespace WithinOne

variable {m n : Nat} {e f : Int}

theorem mul (h : WithinOne m e) (h' : WithinOne n f) : WithinOne (m * n) (e + f) where
  exponent := Int.add_nonpos h.exponent h'.exponent
  significand := by
    have hexponent : (-(e + f)).toNat = (-e).toNat + (-f).toNat := by
      have := h.exponent
      have := h'.exponent
      omega
    rw [hexponent, Nat.pow_add]
    exact Nat.mul_le_mul h.significand h'.significand

theorem shiftLeft (h : WithinOne m e) (s : Nat) : WithinOne (m <<< s) (e - s) where
  exponent := by have := h.exponent; omega
  significand := by
    have hexponent : (-(e - s)).toNat = (-e).toNat + s := by
      have := h.exponent
      omega
    rw [hexponent, Nat.pow_add, Nat.shiftLeft_eq]
    exact Nat.mul_le_mul_right _ h.significand

/-- The target exponent of what makes at most one lies well below zero. -/
theorem targetExponent_le (h : WithinOne m e) :
    Format.binary32.targetExponent (totalExponent m e) ≤ -23 := by
  have hlog : m.log2 ≤ (-e).toNat := by
    rcases Nat.eq_zero_or_pos m with rfl | hm
    · simp
    · rw [← Nat.lt_add_one_iff, Nat.log2_lt hm.ne']
      exact h.significand.trans_lt (Nat.pow_lt_pow_right (by decide) (Nat.lt_succ_self _))
  have hexponent := h.exponent
  have hbits : Format.binary32.mantissaBits = 24 := rfl
  have hleast : Format.binary32.minExponent = -149 := rfl
  unfold Format.targetExponent totalExponent
  rw [hbits, hleast]
  omega

/-- Shifted to the target exponent, rounded or not, it still makes at most one. -/
theorem shiftToTargetExponent (h : WithinOne m e) :
    let shifted := UnpackedFloat.shiftToTargetExponent .binary32 m e .exact
    WithinOne shifted.1.roundedMantissa shifted.2 ∧ WithinOne shifted.1.mantissa shifted.2 := by
  intro shifted
  have htarget := h.targetExponent_le
  have hexponent := h.exponent
  obtain ⟨s, hs⟩ : ∃ s, s = (Format.binary32.targetExponent (totalExponent m e) - e).toNat :=
    ⟨_, rfl⟩
  have hshifted : shifted = (ExtendedMantissa.ofMantissaAndAccuracy m .exact >>> s, e + s) := by
    rw [hs]
    rfl
  have hpow : m ≤ 2 ^ (-(e + s)).toNat * 2 ^ s := by
    have hsum : (-(e + s)).toNat + s = (-e).toNat := by omega
    rw [← Nat.pow_add, hsum]
    exact h.significand
  rw [hshifted]
  refine ⟨⟨by omega, roundedMantissa_shiftRight_le hpow⟩, ⟨by omega, ?_⟩⟩
  rw [(shiftRight_spec m s).1]
  exact Nat.div_le_of_le_mul (by rwa [Nat.mul_comm])

end WithinOne

/-! ## Rounding -/

/-- An unpacked number is not above one. -/
def AtMostOne : UnpackedFloat → Prop
  | .finite .positive m e _ => WithinOne m e
  | .finite .negative _ _ _ | .zero _ | .infinity .negative => True
  | .infinity .positive | .notANumber => False

/-- Rounding does not lead above one. -/
theorem atMostOne_roundWithAccuracy {sign : Sign} {m : Nat} {e : Int}
    (h : sign = .positive → WithinOne m e) :
    AtMostOne (roundWithAccuracy .binary32 sign m e .exact) := by
  unfold roundWithAccuracy
  dsimp only
  split
  · trivial
  · cases sign with
    | negative => trivial
    | positive =>
      -- Rounding up may take one more bit, so there is a second shift.
      exact (h rfl).shiftToTargetExponent.1.shiftToTargetExponent.2

theorem AtMostOne.roundSingle {u : UnpackedFloat} (h : AtMostOne u) :
    AtMostOne (roundSingle u) := by
  match u with
  | .infinity _ | .notANumber | .zero _ => exact h
  | .finite sign m e hm =>
    refine atMostOne_roundWithAccuracy fun hsign => ?_
    subst hsign
    exact WithinOne.shiftLeft h _

/-- A product is not above one if neither of its factors is and one of them is not negative. -/
theorem AtMostOne.mul {u v : UnpackedFloat}
    (hzero : ((UnpackedFloat.zero .positive).compare u).any (·.isLE) = true) (hu : AtMostOne u)
    (hv : AtMostOne v) (hnumber : UnpackedFloat.mul .binary32 u v ≠ .notANumber) :
    AtMostOne (UnpackedFloat.mul .binary32 u v) := by
  match u, v with
  | .notANumber, _ | .infinity .positive, _ => exact absurd hu id
  | _, .notANumber | _, .infinity .positive => exact absurd hv id
  | .infinity .negative, _ | .finite .negative _ _ _, _ => cases hzero
  | .zero _, .infinity .negative => exact absurd rfl hnumber
  | .zero _, .zero _ | .zero _, .finite _ _ _ _ => trivial
  | .finite .positive _ _ _, .infinity .negative | .finite .positive _ _ _, .zero _ => trivial
  | .finite .positive m e hm, .finite .positive n f hn =>
    exact atMostOne_roundWithAccuracy fun _ => WithinOne.mul hu hv
  | .finite .positive m e hm, .finite .negative n f hn =>
    exact atMostOne_roundWithAccuracy fun hsign => nomatch hsign

/-! ## Comparing with one -/

/-- Of positive numbers the exponents are compared first. -/
theorem isLE_compare_iff {m n : Nat} {e f : Int} {hm : 0 < m} {hn : 0 < n} :
    ((UnpackedFloat.finite .positive m e hm).compare (.finite .positive n f hn)).any (·.isLE) =
      true ↔ e < f ∨ e = f ∧ m ≤ n := by
  show ((compare e f).then (compare m n)).isLE = true ↔ _
  rcases lt_trichotomy e f with hlt | rfl | hgt
  · rw [compare_lt_iff_lt.mpr hlt]
    exact ⟨fun _ => .inl hlt, fun _ => rfl⟩
  · have hsame : compare e e = .eq := compare_eq_iff_eq.mpr rfl
    rw [hsame, Ordering.then, Std.isLE_compare]
    exact ⟨fun h => .inr ⟨rfl, h⟩, fun h => (h.resolve_left (lt_irrefl _)).2⟩
  · rw [compare_gt_iff_gt.mpr hgt]
    exact ⟨fun h => (nomatch h), fun h => by omega⟩

/-- What compares as up to one is not above one, in a format with as many bits as the significand
has. -/
theorem AtMostOne.of_compare (p : Nat) {u : UnpackedFloat}
    (hbits : ∀ m e hm, u = .finite .positive m e hm → m < 2 ^ (p + 1))
    (h : (u.compare (.finite .positive (2 ^ p) (-p) (Nat.two_pow_pos p))).any (·.isLE) = true) :
    AtMostOne u := by
  match u with
  | .notANumber | .infinity .positive => cases h
  | .infinity .negative | .zero _ | .finite .negative _ _ _ => trivial
  | .finite .positive m e hm =>
    have hm := hbits m e hm rfl
    rcases isLE_compare_iff.mp h with hlt | ⟨rfl, hle⟩
    · exact ⟨by omega, hm.le.trans (Nat.pow_le_pow_right (by decide) (by omega))⟩
    · exact ⟨by omega, by rwa [Int.neg_neg, Int.toNat_natCast]⟩

/-- A double up to one is not above one. -/
theorem atMostOne_of_double {x : Float} (h : x ≤ 1) : AtMostOne x.toModel.unpack := by
  obtain ⟨hfits, -⟩ := Double.unpack_toModel ((Double.le_iff x 1).mp h).1
  refine .of_compare 52 (fun m e hm hunpack => ?_) ((Double.le_iff_compare x 1).mp h)
  rw [hunpack] at hfits
  exact hfits.significand

theorem le_iff_compare (x y : Float32) :
    x ≤ y ↔ (x.toModel.unpack.compare y.toModel.unpack).any (·.isLE) = true :=
  decide_eq_true_iff

/-- The significand of a single has at most 24 bits. -/
theorem significand_lt {b : BitVec Format.binary32.numBits} {sign : Sign} {m : Nat} {e : Int}
    {hm : 0 < m} (h : UnpackedFloat.unpack .binary32 b = .finite sign m e hm) : m < 2 ^ 24 := by
  unfold UnpackedFloat.unpack at h
  dsimp only at h
  split at h
  · split at h <;> cases h
  · split at h
    · split at h
      · cases h
      · cases h
        exact (unpackMantissa b).isLt.trans (by decide)
    · cases h
      exact (1#1 ++ unpackMantissa b).isLt

/-- A single up to one is not above one. -/
theorem atMostOne_of_single {x : Float32} (h : x ≤ 1) : AtMostOne x.toModel.unpack :=
  .of_compare 23 (fun _ _ _ hunpack => significand_lt hunpack) ((le_iff_compare x 1).mp h)

/-! ## Packing -/

theorem unpackSign_packComponents (sign : Sign) (e : BitVec 8) (m : BitVec 23) :
    unpackSign (packComponents .binary32 sign e m) = sign.toBitVec := by
  refine BitVec.eq_of_getLsbD_eq fun i hi => ?_
  obtain rfl : i = 0 := by omega
  rw [unpackSign, BitVec.getLsbD_cast, BitVec.getLsbD_extractLsb]
  have hlast : (sign.toBitVec ++ e ++ m).getLsbD 31 = sign.toBitVec.getLsbD 0 := by
    rw [BitVec.getLsbD_append, if_neg (by decide), BitVec.getLsbD_append, if_neg (by decide)]
  exact hlast

/-- An unpacked single compares as up to one. -/
def IsLEOne (u : UnpackedFloat) : Prop :=
  (u.compare (.finite .positive (2 ^ 23) (-23) (by decide))).any (·.isLE) = true

/-- Of a positive number up to one the exponent is at most that of one, and that only where there is
no fraction. -/
theorem isLEOne_packComponents {sign : Sign} {e : BitVec 8} {m : BitVec 23}
    (hnegative : sign = .negative → e = -1#8 → m = 0#23)
    (hpositive : sign = .positive → e.toNat * 2 ^ 23 + m.toNat ≤ 127 * 2 ^ 23) :
    IsLEOne (UnpackedFloat.unpack .binary32 (packComponents .binary32 sign e m)) := by
  have hsign : Sign.ofBitVec (unpackSign (packComponents .binary32 sign e m)) = sign := by
    rw [unpackSign_packComponents]
    cases sign <;> rfl
  have hbias : Format.binary32.exponentBias = 127 := rfl
  unfold UnpackedFloat.unpack
  simp only [unpackExponent_packComponents, unpackMantissa_packComponents, hsign, hbias]
  cases sign with
  | negative =>
    split
    next hones => rw [if_pos (hnegative rfl hones)]; rfl
    next =>
      split
      · split <;> rfl
      · rfl
  | positive =>
    have hbound := hpositive rfl
    have hones : e ≠ -1#8 := by
      rintro rfl
      have hlarge : (-1#8).toNat = 255 := rfl
      omega
    have hm : m.toNat < 2 ^ 23 := m.isLt
    rw [if_neg hones]
    split
    next hzeros =>
      split
      · rfl
      · subst hzeros
        exact isLE_compare_iff.mpr (.inl (by decide))
    next =>
      have hsignificand : (1#1 ++ m).toNat = 2 ^ 23 + m.toNat := by
        rw [BitVec.toNat_append, ← Nat.shiftLeft_add_eq_or_of_lt m.isLt]
        rfl
      refine isLE_compare_iff.mpr ?_
      rw [hsignificand]
      omega

theorem pack_finite (sign : Sign) {m : Nat} {e : Int} (hm : 0 < m) :
    UnpackedFloat.pack .binary32 (.finite sign m e hm) =
      if 256 ≤ (e + 150).toNat + 1 then packedInfinity .binary32 sign
      else if m.log2 + 1 = 24 then
        packComponents .binary32 sign (.ofNat 8 (e + 150).toNat) (.ofNat 23 m)
      else packComponents .binary32 sign 0#8 (.ofNat 23 m) := by
  have hbias : e + 150 = e + 127 + 23 := by omega
  rw [hbias]
  rfl

/-- What is not above one stays so when it is packed. -/
theorem isLEOne_pack {u : UnpackedFloat} (h : AtMostOne u) :
    IsLEOne (UnpackedFloat.unpack .binary32 (UnpackedFloat.pack .binary32 u)) := by
  match u with
  | .notANumber | .infinity .positive => exact absurd h id
  | .infinity .negative =>
    exact isLEOne_packComponents (fun _ _ => rfl) (fun hsign => nomatch hsign)
  | .zero sign => exact isLEOne_packComponents (fun _ _ => rfl) (fun _ => by decide)
  | .finite sign m e hm =>
    rw [pack_finite]
    split
    next hoverflow =>
      refine isLEOne_packComponents (fun _ _ => rfl) fun hsign => ?_
      subst hsign
      have hexponent := h.exponent
      exact absurd hoverflow (by omega)
    next hfits =>
      split
      next hnormal =>
        refine isLEOne_packComponents (fun _ hones => ?_) fun hsign => ?_
        · have hlarge := congrArg BitVec.toNat hones
          rw [BitVec.toNat_ofNat, Nat.mod_eq_of_lt (by omega)] at hlarge
          have hall : (-1#8).toNat = 255 := rfl
          omega
        · -- With all its bits a significand is at most one only from an exponent of -23 down.
          subst hsign
          obtain ⟨hexponent, hsignificand⟩ := h
          have hlow : 2 ^ 23 ≤ m := (Nat.le_log2 hm.ne').mp (by omega)
          have hhigh : m < 2 ^ 24 := (Nat.log2_lt hm.ne').mp (by omega)
          have hdeep : e ≤ -23 := by
            have hpow := (Nat.pow_le_pow_iff_right (by decide)).mp (hlow.trans hsignificand)
            omega
          have hone : e = -23 → m ≤ 2 ^ 23 := by
            rintro rfl
            exact hsignificand
          rw [BitVec.toNat_ofNat, BitVec.toNat_ofNat]
          omega
      next =>
        refine isLEOne_packComponents (fun _ hones => absurd hones (by decide)) fun _ => ?_
        have hfraction := (BitVec.ofNat 23 m).isLt
        have hnone : (0#8).toNat = 0 := rfl
        omega

theorem le_one_of_atMostOne {u : UnpackedFloat} (h : AtMostOne u) :
    Float32.ofModel (.pack u) ≤ 1 :=
  (le_iff_compare _ 1).mpr (isLEOne_pack h)

/-! ## Numbers -/

/-- A double up to one is at most one in single precision. -/
theorem single_le_one {x : Float} (h : x ≤ 1) : single x ≤ 1 :=
  le_one_of_atMostOne (atMostOne_of_double h).roundSingle

theorem mul_eq_pack (a b : Float32) :
    a * b = .ofModel (.pack (UnpackedFloat.mul .binary32 a.toModel.unpack b.toModel.unpack)) :=
  rfl

theorem isNaN_pack_notANumber : (Float32.ofModel (.pack .notANumber)).isNaN = true := by
  decide +kernel

/-- A product of a number from zero to one and one up to one is at most one, if it is a number. -/
theorem mul_le_one {a b : Float32} (hzero : 0 ≤ a) (ha : a ≤ 1) (hb : b ≤ 1)
    (hnumber : (a * b).isNaN = false) : a * b ≤ 1 := by
  rw [mul_eq_pack] at hnumber ⊢
  apply le_one_of_atMostOne
  apply AtMostOne.mul ((le_iff_compare 0 a).mp hzero) (atMostOne_of_single ha)
    (atMostOne_of_single hb)
  intro hnan
  rw [hnan, isNaN_pack_notANumber] at hnumber
  cases hnumber

/-- A product with what is not a number is none. -/
theorem isNaN_mul_single {x : Float} (h : x.isNaN = true) (a : Float32) :
    (a * single x).isNaN = true := by
  have hunpack : x.toModel.unpack = .notANumber := UnpackedFloat.isNaN_iff.mp h
  have hsingle : (single x).toModel.unpack = .notANumber := by
    rw [single, hunpack]
    rfl
  have hmul : UnpackedFloat.mul .binary32 a.toModel.unpack .notANumber = .notANumber := by
    cases a.toModel.unpack <;> rfl
  rw [mul_eq_pack, hsingle, hmul, isNaN_pack_notANumber]

/-- A number that is not up to zero is above it. -/
theorem pos_of_not_le_zero {x : Float32} (hnumber : x.isNaN = false) (h : ¬x ≤ 0) : 0 < x := by
  have hnan : x.toModel.unpack ≠ .notANumber := by
    intro hnan
    have hisNaN : x.isNaN = true := UnpackedFloat.isNaN_iff.mpr hnan
    rw [hnumber] at hisNaN
    cases hisNaN
  have hlt : ((UnpackedFloat.zero .positive).compare x.toModel.unpack == some .lt) = true := by
    have hle := mt (le_iff_compare x 0).mpr h
    have hzero : (0 : Float32).toModel.unpack = .zero .positive := rfl
    rw [hzero] at hle
    revert hnan hle
    generalize x.toModel.unpack = u
    intro hnan hle
    match u with
    | .notANumber => exact absurd rfl hnan
    | .infinity .positive | .finite .positive _ _ _ => rfl
    | .infinity .negative | .finite .negative _ _ _ | .zero _ => exact absurd rfl hle
  exact decide_eq_true_iff.mpr hlt

end MapStyling.Single
