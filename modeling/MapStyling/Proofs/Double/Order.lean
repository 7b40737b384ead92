import Mathlib
import MapStyling.PropertyFunction

/-!
# The order of doubles

A double is below or equal to another exactly when neither is NaN and its place is not behind the
other's (`Double.le_iff`). The place of a double is read off its bits: of two doubles without sign,
that with the smaller bits comes first. So numbers that are not NaN are ordered linearly, and stops
in the order of their total ranks are in the order of their places
(`Double.place_le_of_totalRank_le`), and only the two zeros have one place and two ranks
(`Double.totalRank_lt_iff`). With no place for NaN (`Double.place?`), every comparison of
doubles is one of places.

A comparison of doubles unpacks both into sign, exponent and significand and compares these one
after the other. The proof gives unpacked doubles a place as well (`Double.unpackedPlace`), shows
that the comparison is that of the places, and that unpacking keeps them.
-/

namespace MapStyling.Double

open Float.Model Float.Model.UnpackedFloat

/-- The place of a double among all: its bits, counted backwards from zero below the sign bit. Both
zeros have the place zero. -/
def place (x : Float) : Int :=
  let bits := x.toBits.toNat
  if bits < Decimal.signBit then bits else (Decimal.signBit : Int) - bits

/-! ## Unpacked doubles -/

/-- The place of an unpacked double. The exponent counts in steps of all significands. -/
def unpackedPlace : UnpackedFloat → Int
  | .notANumber | .zero _ => 0
  | .infinity s => s.apply (2047 * 2 ^ 52)
  | .finite s m e _ => s.apply ((e + 1074) * 2 ^ 52 + m)

/-- What a significand and an exponent have to be for a double: the significand has 53 bits, and the
first of them is missing only where the exponent is the least. -/
structure Fits (m : Nat) (e : Int) : Prop where
  significand : m < 2 ^ 53
  least : -1074 ≤ e
  greatest : e ≤ 971
  subnormal : m < 2 ^ 52 → e = -1074

/-- An unpacked double fits. -/
def Unpacked : UnpackedFloat → Prop
  | .finite _ m e _ => Fits m e
  | _ => True

/-- The exponent comes before the significand. -/
theorem compare_magnitudes {m n : Nat} {e f : Int} (h : Fits m e) (h' : Fits n f) :
    (compare e f).then (compare m n) =
      compare ((e + 1074) * 2 ^ 52 + (m : Int)) ((f + 1074) * 2 ^ 52 + (n : Int)) := by
  obtain ⟨hm, he, -, hme⟩ := h
  obtain ⟨hn, hf, -, hnf⟩ := h'
  rcases lt_trichotomy e f with hlt | rfl | hgt
  · -- The significand of a greater exponent has its first bit.
    have hplace : (e + 1074) * 2 ^ 52 + (m : Int) < (f + 1074) * 2 ^ 52 + (n : Int) := by omega
    rw [compare_lt_iff_lt.mpr hlt, compare_lt_iff_lt.mpr hplace]
    rfl
  · have hsame : compare e e = .eq := compare_eq_iff_eq.mpr rfl
    rw [hsame, Ordering.then]
    rcases lt_trichotomy m n with hlt | rfl | hgt
    · have hplace : (e + 1074) * 2 ^ 52 + (m : Int) < (e + 1074) * 2 ^ 52 + (n : Int) := by omega
      rw [compare_lt_iff_lt.mpr hlt, compare_lt_iff_lt.mpr hplace]
    · rw [compare_eq_iff_eq.mpr rfl, compare_eq_iff_eq.mpr rfl]
    · have hplace : (e + 1074) * 2 ^ 52 + (n : Int) < (e + 1074) * 2 ^ 52 + (m : Int) := by omega
      rw [compare_gt_iff_gt.mpr hgt, compare_gt_iff_gt.mpr hplace]
  · have hplace : (f + 1074) * 2 ^ 52 + (n : Int) < (e + 1074) * 2 ^ 52 + (m : Int) := by omega
    rw [compare_gt_iff_gt.mpr hgt, compare_gt_iff_gt.mpr hplace]
    rfl

theorem swap_compare (x y : Int) : (compare x y).swap = compare (-x) (-y) := by
  rcases lt_trichotomy x y with hlt | rfl | hgt
  · rw [compare_lt_iff_lt.mpr hlt, compare_gt_iff_gt.mpr (neg_lt_neg hlt)]
    rfl
  · rw [compare_eq_iff_eq.mpr rfl, compare_eq_iff_eq.mpr rfl]
    rfl
  · rw [compare_gt_iff_gt.mpr hgt, compare_lt_iff_lt.mpr (neg_lt_neg hgt)]
    rfl

theorem some_gt {x y : Int} (h : y < x) : some Ordering.gt = some (compare x y) := by
  rw [compare_gt_iff_gt.mpr h]

theorem some_lt {x y : Int} (h : x < y) : some Ordering.lt = some (compare x y) := by
  rw [compare_lt_iff_lt.mpr h]

/-- The magnitude of a finite double lies between zero and infinity. -/
theorem magnitude_bounds {m : Nat} {e : Int} (h : Fits m e) (hm : 0 < m) :
    0 < (e + 1074) * 2 ^ 52 + (m : Int) ∧ (e + 1074) * 2 ^ 52 + (m : Int) < 2047 * 2 ^ 52 := by
  obtain ⟨hsignificand, hleast, hgreatest, -⟩ := h
  constructor <;> omega

/-- Unpacked doubles compare as their places do. -/
theorem compare_unpacked {a b : UnpackedFloat} (ha : Unpacked a) (hb : Unpacked b)
    (hna : a ≠ .notANumber) (hnb : b ≠ .notANumber) :
    a.compare b = some (compare (unpackedPlace a) (unpackedPlace b)) := by
  match a, b with
  | .notANumber, _ => exact absurd rfl hna
  | _, .notANumber => exact absurd rfl hnb
  | .infinity s, .infinity t => cases s <;> cases t <;> rfl
  | .infinity s, .zero _ => cases s <;> rfl
  | .zero _, .infinity s => cases s <;> rfl
  | .zero _, .zero _ => rfl
  | .infinity s, .finite t m e hm =>
    have hbounds := magnitude_bounds hb hm
    cases s <;> cases t <;> simp only [unpackedPlace, Sign.apply]
    · exact some_lt (by omega)
    · exact some_lt (by omega)
    · exact some_gt (by omega)
    · exact some_gt (by omega)
  | .finite s m e hm, .infinity t =>
    have hbounds := magnitude_bounds ha hm
    cases s <;> cases t <;> simp only [unpackedPlace, Sign.apply]
    · exact some_gt (by omega)
    · exact some_lt (by omega)
    · exact some_gt (by omega)
    · exact some_lt (by omega)
  | .finite s m e hm, .zero _ =>
    have hbounds := magnitude_bounds ha hm
    cases s <;> simp only [unpackedPlace, Sign.apply]
    · exact some_lt (by omega)
    · exact some_gt (by omega)
  | .zero _, .finite t m e hm =>
    have hbounds := magnitude_bounds hb hm
    cases t <;> simp only [unpackedPlace, Sign.apply]
    · exact some_gt (by omega)
    · exact some_lt (by omega)
  | .finite s m e hm, .finite t n f hn =>
    have hbounds := magnitude_bounds ha hm
    have hbounds' := magnitude_bounds hb hn
    have hmagnitudes := compare_magnitudes ha hb
    cases s <;> cases t <;> simp only [unpackedPlace, Sign.apply]
    · exact congrArg some ((congrArg Ordering.swap hmagnitudes).trans (swap_compare _ _))
    · exact some_lt (by omega)
    · exact some_gt (by omega)
    · exact congrArg some hmagnitudes

/-! ## Unpacking -/

variable (b : BitVec Format.binary64.numBits)

theorem toNat_unpackMantissa : (unpackMantissa b).toNat = b.toNat % 2 ^ 52 := by
  rw [unpackMantissa_def, BitVec.extractLsb'_toNat, Nat.shiftRight_zero]

theorem toNat_unpackExponent : (unpackExponent b).toNat = b.toNat / 2 ^ 52 % 2 ^ 11 := by
  rw [unpackExponent_def, BitVec.extractLsb'_toNat, Nat.shiftRight_eq_div_pow]

theorem toNat_unpackSign : (unpackSign b).toNat = b.toNat / 2 ^ 63 % 2 := by
  rw [unpackSign_def, BitVec.extractLsb'_toNat, Nat.shiftRight_eq_div_pow]
  rfl

theorem apply_sign (n : Int) :
    (Sign.ofBitVec (unpackSign b)).apply n = if b.toNat < 2 ^ 63 then n else -n := by
  have hb : b.toNat < 2 ^ 64 := b.isLt
  have hs := toNat_unpackSign b
  by_cases h : b.toNat < 2 ^ 63
  · have hzero : b.toNat / 2 ^ 63 % 2 = 0 := by omega
    have hsign : unpackSign b = 0#1 := BitVec.eq_of_toNat_eq (hs.trans hzero)
    rw [if_pos h, hsign]
    rfl
  · have hone : b.toNat / 2 ^ 63 % 2 = 1 := by omega
    have hsign : unpackSign b = 1#1 := BitVec.eq_of_toNat_eq (hs.trans hone)
    rw [if_neg h, hsign]
    rfl

/-- The parts of a double by its bits. -/
theorem unpack_cases :
    let sign := Sign.ofBitVec (unpackSign b)
    let exponent : Nat := b.toNat / 2 ^ 52 % 2 ^ 11
    let fraction : Nat := b.toNat % 2 ^ 52
    (exponent = 2047 ∧ fraction = 0 ∧ UnpackedFloat.unpack _ b = .infinity sign) ∨
      (exponent = 2047 ∧ fraction ≠ 0 ∧ UnpackedFloat.unpack _ b = .notANumber) ∨
      (exponent = 0 ∧ fraction = 0 ∧ UnpackedFloat.unpack _ b = .zero sign) ∨
      (exponent = 0 ∧ ∃ h, UnpackedFloat.unpack _ b = .finite sign fraction (-1074) h) ∨
      (exponent ≠ 0 ∧ exponent ≠ 2047 ∧
        ∃ h, UnpackedFloat.unpack _ b =
          .finite sign (2 ^ 52 + fraction) ((exponent : Int) - 1075) h) := by
  intro sign exponent fraction
  have hm : (unpackMantissa b).toNat = fraction := toNat_unpackMantissa b
  have he : (unpackExponent b).toNat = exponent := toNat_unpackExponent b
  have hbias : Format.binary64.exponentBias = 1023 := rfl
  have hones : unpackExponent b = -1#_ ↔ exponent = 2047 := by
    rw [← he, ← BitVec.toNat_inj]
    rfl
  have hzeros : unpackExponent b = 0#_ ↔ exponent = 0 := by
    rw [← he, ← BitVec.toNat_inj]
    rfl
  have hnone : unpackMantissa b = 0#_ ↔ fraction = 0 := by
    rw [← hm, ← BitVec.toNat_inj]
    rfl
  unfold UnpackedFloat.unpack
  extract_lets mantissaBits exponentBits unpacked signBits sign'
  have hunpacked : unpacked = (exponent : Int) - 1075 := by
    show ((unpackExponent b).toNat : Int) - (1023 + 52) = exponent - 1075
    rw [he]
    rfl
  by_cases hall : exponent = 2047
  · rw [if_pos (hones.mpr hall)]
    by_cases hfraction : fraction = 0
    · exact .inl ⟨hall, hfraction, if_pos (hnone.mpr hfraction)⟩
    · exact .inr (.inl ⟨hall, hfraction, if_neg (mt hnone.mp hfraction)⟩)
  · rw [if_neg (mt hones.mp hall)]
    refine .inr (.inr ?_)
    by_cases hno : exponent = 0
    · rw [if_pos (hzeros.mpr hno)]
      by_cases hfraction : fraction = 0
      · exact .inl ⟨hno, hfraction, dif_pos (hnone.mpr hfraction)⟩
      · refine .inr (.inl ⟨hno, Nat.pos_of_ne_zero hfraction, ?_⟩)
        rw [dif_neg (mt hnone.mp hfraction)]
        congr 1
        omega
    · rw [if_neg (mt hzeros.mp hno)]
      refine .inr (.inr ⟨hno, hall, Nat.add_pos_left (by decide) _, ?_⟩)
      congr 1
      · show (1#1 ++ unpackMantissa b).toNat = 2 ^ 52 + fraction
        rw [BitVec.toNat_append, ← Nat.shiftLeft_add_eq_or_of_lt (unpackMantissa b).isLt, hm]
        rfl

/-- The parts of a double fit, and their place is that of the bits. -/
theorem unpack_spec (h : UnpackedFloat.unpack _ b ≠ .notANumber) :
    Unpacked (UnpackedFloat.unpack _ b) ∧
      unpackedPlace (UnpackedFloat.unpack _ b) =
        if b.toNat < 2 ^ 63 then (b.toNat : Int) else 2 ^ 63 - b.toNat := by
  have hb : b.toNat < 2 ^ 64 := b.isLt
  rcases unpack_cases b with ⟨hexponent, hfraction, heq⟩ | ⟨-, -, heq⟩ | ⟨hexponent, hfraction, heq⟩ |
    ⟨hexponent, hfraction, heq⟩ | ⟨hexponent, hfinite, hfraction, heq⟩
  · rw [heq, unpackedPlace, apply_sign]
    exact ⟨trivial, by split <;> omega⟩
  · exact absurd heq h
  · rw [heq, unpackedPlace]
    exact ⟨trivial, by split <;> omega⟩
  · rw [heq, unpackedPlace, apply_sign]
    refine ⟨⟨?_, ?_, ?_, ?_⟩, ?_⟩
    · omega
    · omega
    · omega
    · omega
    · split <;> omega
  · rw [heq, unpackedPlace, apply_sign]
    refine ⟨⟨?_, ?_, ?_, ?_⟩, ?_⟩
    · omega
    · omega
    · omega
    · omega
    · split <;> omega

/-! ## Doubles -/

theorem isNaN_eq_false_iff (x : Float) : x.isNaN = false ↔ x.toModel.unpack ≠ .notANumber := by
  rw [← Bool.not_eq_true]
  exact not_congr UnpackedFloat.isNaN_iff

theorem le_iff_compare (x y : Float) :
    x ≤ y ↔ (x.toModel.unpack.compare y.toModel.unpack).any (·.isLE) = true :=
  decide_eq_true_iff

/-- The parts of a double fit, and their place is that of the double. -/
theorem unpack_toModel {x : Float} (h : x.isNaN = false) :
    Unpacked x.toModel.unpack ∧ unpackedPlace x.toModel.unpack = place x :=
  unpack_spec x.toBits.toBitVec ((isNaN_eq_false_iff x).mp h)

theorem compare_eq_none {a b : UnpackedFloat} (h : a = .notANumber ∨ b = .notANumber) :
    a.compare b = none := by
  rcases h with rfl | rfl
  · cases b <;> rfl
  · cases a <;> rfl

/-- The place of a number; NaN has none. -/
def place? (x : Float) : Option Int :=
  if x.isNaN then none else some (place x)

/-- The order of two places, if both are there. -/
def comparePlaces? (p q : Option Int) : Option Ordering :=
  p.bind fun p => q.map fun q => compare p q

@[simp] theorem comparePlaces?_none_left (q : Option Int) : comparePlaces? none q = none :=
  rfl

@[simp] theorem comparePlaces?_none_right (p : Option Int) : comparePlaces? p none = none := by
  cases p <;> rfl

@[simp] theorem comparePlaces?_some (p q : Int) :
    comparePlaces? (some p) (some q) = some (compare p q) :=
  rfl

theorem comparePlaces?_swap (p q : Option Int) :
    comparePlaces? q p = (comparePlaces? p q).map Ordering.swap := by
  cases p with
  | none => simp
  | some p =>
    cases q with
    | none => simp
    | some q => exact congrArg some Std.OrientedOrd.eq_swap

/-- Doubles compare as their places do, and NaN compares with nothing. -/
theorem compare_toModel (x y : Float) :
    x.toModel.unpack.compare y.toModel.unpack = comparePlaces? (place? x) (place? y) := by
  unfold place?
  cases hx : x.isNaN with
  | true => exact compare_eq_none (.inl (UnpackedFloat.isNaN_iff.mp hx))
  | false =>
    cases hy : y.isNaN with
    | true => exact compare_eq_none (.inr (UnpackedFloat.isNaN_iff.mp hy))
    | false =>
      obtain ⟨hfits, hplace⟩ := unpack_toModel hx
      obtain ⟨hfits', hplace'⟩ := unpack_toModel hy
      rw [compare_unpacked hfits hfits' ((isNaN_eq_false_iff x).mp hx)
        ((isNaN_eq_false_iff y).mp hy), hplace, hplace']
      rfl

/-- Doubles are ordered by their places, and NaN has no place in the order. -/
theorem le_iff (x y : Float) :
    x ≤ y ↔ x.isNaN = false ∧ y.isNaN = false ∧ place x ≤ place y := by
  rw [le_iff_compare, compare_toModel, place?, place?]
  cases x.isNaN with
  | true => simp
  | false =>
    cases y.isNaN with
    | true => simp
    | false => simp [Std.isLE_compare]

theorem lt_iff_compare (x y : Float) :
    x < y ↔ x.toModel.unpack.compare y.toModel.unpack = some .lt :=
  decide_eq_true_iff.trans beq_iff_eq

theorem beq_iff_compare (x y : Float) :
    (x == y) = true ↔ x.toModel.unpack.compare y.toModel.unpack = some .eq := by
  change (x.toModel.unpack.compare y.toModel.unpack == some .eq) = true ↔ _
  exact beq_iff_eq

/-- Numbers are ordered by their places, and NaN is below nothing and above nothing. -/
theorem lt_iff (x y : Float) :
    x < y ↔ x.isNaN = false ∧ y.isNaN = false ∧ place x < place y := by
  rw [lt_iff_compare, compare_toModel, place?, place?]
  cases x.isNaN with
  | true => simp
  | false =>
    cases y.isNaN with
    | true => simp
    | false => simp [compare_lt_iff_lt]

/-- Numbers are equal that have one place, and NaN is equal to nothing. -/
theorem beq_iff (x y : Float) :
    (x == y) = true ↔ x.isNaN = false ∧ y.isNaN = false ∧ place x = place y := by
  rw [beq_iff_compare, compare_toModel, place?, place?]
  cases x.isNaN with
  | true => simp
  | false =>
    cases y.isNaN with
    | true => simp
    | false => simp

/-- Equal numbers have one place. -/
theorem place?_eq_of_beq {x y : Float} (h : (x == y) = true) : place? x = place? y := by
  rw [beq_iff_compare, compare_toModel] at h
  obtain ⟨p, hp, hcompare⟩ := Option.bind_eq_some_iff.mp h
  obtain ⟨q, hq, heq⟩ := Option.map_eq_some_iff.mp hcompare
  rw [hp, hq, compare_eq_iff_eq.mp heq]

/-- Numbers are compared by their places. -/
theorem compareNumbers?_eq (x y : Float) :
    compareNumbers? x y = comparePlaces? (place? x) (place? y) := by
  unfold compareNumbers?
  simp only [lt_iff_compare, beq_iff_compare, compare_toModel]
  cases place? x with
  | none => simp
  | some p =>
    cases place? y with
    | none => simp
    | some q =>
      simp only [comparePlaces?_some, Option.some.injEq]
      rcases lt_trichotomy p q with hlt | rfl | hgt
      · rw [compare_lt_iff_lt.mpr hlt, if_pos rfl]
      · simp
      · have hswap : compare q p = .lt := compare_lt_iff_lt.mpr hgt
        rw [compare_gt_iff_gt.mpr hgt, if_neg Ordering.noConfusion, if_pos hswap]

/-- Equal numbers are those that compare as equal. -/
theorem beq_eq_compareNumbers? (x y : Float) : (x == y) = (compareNumbers? x y == some .eq) := by
  rw [Bool.eq_iff_iff, beq_iff_compare, compare_toModel, ← compareNumbers?_eq, beq_iff_eq]

/-- Two doubles that are not NaN are in order one way or the other. -/
theorem le_total {x y : Float} (hx : x.isNaN = false) (hy : y.isNaN = false) : x ≤ y ∨ y ≤ x := by
  rcases Int.le_total (place x) (place y) with h | h
  · exact .inl ((le_iff x y).mpr ⟨hx, hy, h⟩)
  · exact .inr ((le_iff y x).mpr ⟨hy, hx, h⟩)

/-- Of two numbers one is up to the other, unless it is above it. -/
theorem le_of_not_lt {x y : Float} (hx : x.isNaN = false) (hy : y.isNaN = false) (h : ¬y < x) :
    x ≤ y := by
  apply (le_iff x y).mpr
  refine ⟨hx, hy, not_lt.mp ?_⟩
  intro hplace
  exact h ((lt_iff y x).mpr ⟨hy, hx, hplace⟩)

theorem lt_of_lt_of_le {x y z : Float} (hxy : x < y) (hyz : y ≤ z) : x < z := by
  obtain ⟨hx, -, hplace⟩ := (lt_iff x y).mp hxy
  obtain ⟨-, hz, hplace'⟩ := (le_iff y z).mp hyz
  exact (lt_iff x z).mpr ⟨hx, hz, hplace.trans_le hplace'⟩

/-! ## Total ranks -/

/-- The order of total ranks tells the zeros apart, and otherwise is that of the places. -/
theorem place_le_of_totalRank_le {x y : Float} (h : totalRank x ≤ totalRank y) :
    place x ≤ place y := by
  unfold totalRank at h
  unfold place
  dsimp only at h ⊢
  split at h <;> split at h <;> omega

/-- A number before another in the order of total ranks is below all that the other is below. -/
theorem le_of_totalRank_le {x y z : Float} (hx : x.isNaN = false) (h : totalRank x ≤ totalRank y)
    (hyz : y ≤ z) : x ≤ z := by
  obtain ⟨-, hz, hplace⟩ := (le_iff y z).mp hyz
  exact (le_iff x z).mpr ⟨hx, hz, (place_le_of_totalRank_le h).trans hplace⟩

/-- No two doubles have one total rank. -/
theorem totalRank_injective : Function.Injective totalRank := by
  intro x y h
  refine Float.toBits_inj.mp (UInt64.toNat_inj.mp ?_)
  unfold totalRank at h
  dsimp only at h
  split at h <;> split at h <;> omega

/-- In the order of total ranks a smaller number comes before a greater one, and the negative zero
before zero. -/
theorem totalRank_lt_iff {x y : Float} (hx : x.isNaN = false) (hy : y.isNaN = false) :
    totalRank x < totalRank y ↔ x < y ∨ x = -0 ∧ y = 0 := by
  constructor
  · intro h
    rcases (place_le_of_totalRank_le h.le).lt_or_eq with hlt | heq
    · exact .inl ((lt_iff x y).mpr ⟨hx, hy, hlt⟩)
    · -- Two numbers of one place and two ranks are the two zeros.
      obtain ⟨-, -, rfl | ⟨rfl, rfl⟩ | hzeros⟩ :=
        Float.beq_iff_ne_nan_and_eq.mp ((beq_iff x y).mpr ⟨hx, hy, heq⟩)
      · exact absurd h (lt_irrefl _)
      · exact absurd h (by decide +kernel)
      · exact .inr hzeros
  · rintro (hlt | ⟨rfl, rfl⟩)
    · obtain ⟨-, -, hplace⟩ := (lt_iff x y).mp hlt
      exact lt_of_not_ge fun hrank => absurd (place_le_of_totalRank_le hrank) hplace.not_ge
    · decide +kernel

end MapStyling.Double
