import MapStyling.Proofs.Stops.Interpolation

/-!
# Powers that overflow

The inputs of stops may be far apart, as the populations of towns are, and then the powers of a base
are greater than every double. Of the two powers in the factor it does no harm that the one for the
whole way is infinite, for then the factor is zero. But if the one for the way made is infinite too,
then the factor is the quotient of two infinities, which is NaN (`Stops.factor_cases`), and so is what
is interpolated there. At all other inputs it is a number
(`Stops.exactInterpolate?_ordered_eq_nan_iff`).
-/

namespace MapStyling

/-- The greatest finite double. -/
noncomputable def greatestDouble : ℝ := (2 ^ 53 - 1) * 2 ^ 971

/-- Behind its bits come those of infinity. -/
example : (Float.ofNat ((2 ^ 53 - 1) * 2 ^ 971)).toBits = 0x7FEFFFFFFFFFFFFF ∧
    (Float.ofBits 0x7FF0000000000000).isInf = true := by decide +kernel

theorem one_le_greatestDouble : 1 ≤ greatestDouble :=
  one_le_mul_of_one_le_of_one_le (by norm_num) (one_le_pow₀ one_le_two)

/-- Powers of positive real numbers to real numbers, infinite if they are above the greatest double. -/
noncomputable def Extended.overflowingPow : Extended ℝ → Extended ℝ → Extended ℝ
  | .number base, .number exponent =>
    if greatestDouble < base ^ exponent then .infinity false else .number (base ^ exponent)
  | _, _ => .nan

theorem Extended.overflowingPow_of_lt {base exponent : ℝ} (h : greatestDouble < base ^ exponent) :
    overflowingPow (.number base) (.number exponent) = .infinity false :=
  if_pos h

theorem Extended.overflowingPow_of_le {base exponent : ℝ} (h : base ^ exponent ≤ greatestDouble) :
    overflowingPow (.number base) (.number exponent) = .number (base ^ exponent) :=
  if_neg h.not_gt

namespace Stops

open Extended

variable {base x lower upper : ℝ} {ln : Extended ℝ → Extended ℝ}

/-- The power for a part of the way does not overflow if that for the whole way does not. -/
theorem rpow_le_greatestDouble (hbase : 0 < base) (hlow : lower ≤ x) (hhigh : x ≤ upper)
    (hrange : base ^ (upper - lower) ≤ greatestDouble) : base ^ (x - lower) ≤ greatestDouble := by
  rcases le_total 1 base with hge | hle
  · have hprogress : x - lower ≤ upper - lower := sub_le_sub_right hhigh lower
    exact (Real.rpow_le_rpow_of_exponent_le hge hprogress).trans hrange
  · have hone : base ^ (x - lower) ≤ 1 := Real.rpow_le_one hbase.le hle (sub_nonneg.mpr hlow)
    exact hone.trans one_le_greatestDouble

variable (ln) in
/-- The factor is NaN where the power for the way made overflows, and elsewhere a number from zero to
one. -/
theorem factor_cases (hbase : 0 < base) (hlow : lower ≤ x) (hhigh : x < upper) :
    let t := @factor _ (Scalar.extended overflowingPow ln) (.number base) (.number x)
      (.number lower) (.number upper)
    (greatestDouble < base ^ (x - lower) ∧ t = .nan) ∨
      (base ^ (x - lower) ≤ greatestDouble ∧ ∃ r ∈ Set.Icc (0 : ℝ) 1, t = .number r) := by
  intro t
  have hlt : lower < upper := hlow.trans_lt hhigh
  have hexact := exactFactor_mem_Icc (isPower_rpow hbase) hlt hlow hhigh.le
  have ht : t = _ := factor_eq overflowingPow ln hlt.ne' base x
  unfold exactFactor at hexact
  by_cases hone : base = 1
  · rw [if_pos hone] at ht hexact
    refine .inr ⟨?_, _, hexact, ht⟩
    rw [hone, Real.one_rpow]
    exact one_le_greatestDouble
  rw [if_neg hone] at ht hexact
  -- An infinite divisor alone makes the factor zero; it takes both powers to make it NaN.
  rcases lt_or_ge greatestDouble (base ^ (upper - lower)) with hrange | hrange
  · rw [overflowingPow_of_lt hrange] at ht
    rcases lt_or_ge greatestDouble (base ^ (x - lower)) with hprogress | hprogress
    · rw [overflowingPow_of_lt hprogress] at ht
      exact .inl ⟨hprogress, ht⟩
    · rw [overflowingPow_of_le hprogress] at ht
      exact .inr ⟨hprogress, 0, Set.left_mem_Icc.mpr zero_le_one, ht⟩
  · have hprogress := rpow_le_greatestDouble hbase hlow hhigh.le hrange
    rw [overflowingPow_of_le hrange, overflowingPow_of_le hprogress] at ht
    have hdivisor : base ^ (upper - lower) - 1 ≠ 0 :=
      (isPower_rpow hbase).sub_one_ne_zero hone (sub_pos.mpr hlt).ne'
    refine .inr ⟨hprogress, _, hexact, ?_⟩
    rw [ht]
    simp [Extended.sub, Extended.div, hdivisor]

variable (ln) in
/-- And so is what the outputs of two stops mix into. -/
theorem extendedBetween_cases (hbase : 0 < base) {a b : ℝ × ℝ} (hlow : a.1 ≤ x) (hhigh : x < b.1) :
    (greatestDouble < base ^ (x - a.1) ∧ extendedBetween overflowingPow ln base a b x = .nan) ∨
      (base ^ (x - a.1) ≤ greatestDouble ∧
        ∃ y, extendedBetween overflowingPow ln base a b x = .number y) := by
  let := Scalar.extended overflowingPow ln
  let mixed : Extended ℝ → Extended ℝ := fun t => mix t (.number a.2) (.number b.2)
  rcases factor_cases ln hbase hlow hhigh with ⟨hover, ht⟩ | ⟨hle, r, -, ht⟩
  · exact .inl ⟨hover, congrArg mixed ht⟩
  · exact .inr ⟨hle, _, congrArg mixed ht⟩

/-! ## Among stops -/

/-- An input is so far above the stop before it that the power overflows. -/
def Overflows (base : ℝ) (stops : List (ℝ × ℝ)) (x : ℝ) : Prop :=
  ∃ i, ∃ hi : i + 1 < stops.length, stops[i].1 ≤ x ∧ x < stops[i + 1].1 ∧
    greatestDouble < base ^ (x - stops[i].1)

variable {stops : List (ℝ × ℝ)}

section Sorted

variable (hsorted : stops.Pairwise fun s t => s.1 ≤ t.1)

include hsorted

/-- Of two places in a sorted list an input is only in one. -/
theorem le_of_around {i j : Nat} (hi : i < stops.length) (hj : j + 1 < stops.length)
    (hlow : stops[i].1 ≤ x) (hhigh : x < stops[j + 1].1) : i ≤ j := by
  by_contra hlt
  have hle : stops[j + 1].1 ≤ stops[i].1 := getElem_le_of_pairwise hsorted hi (by omega)
  exact absurd (hhigh.trans_le hle) hlow.not_gt

variable (ln) in
/-- What is interpolated is NaN where a power overflows, and elsewhere a number. -/
theorem exactInterpolate?_overflow_cases (hbase : 0 < base) (hpos : 0 < stops.length) (x : ℝ) :
    (Overflows base stops x ∧
      exactInterpolate? overflowingPow ln base stops (.number x) = some .nan) ∨
    (¬ Overflows base stops x ∧
      ∃ y, exactInterpolate? overflowingPow ln base stops (.number x) = some (.number y)) := by
  rcases exactInterpolate?_places overflowingPow ln base hpos (Extended.number_ne_nan x) with
    ⟨hbelow, h⟩ | ⟨habove, h⟩ | ⟨j, hj, r, hr, hlower, hupper, h⟩
  · rw [Extended.number_le_number] at hbelow
    refine .inr ⟨?_, _, h⟩
    rintro ⟨i, hi, hlow, hhigh, hover⟩
    -- Nothing is above the first stop here, and the power to zero is one.
    have hfirst : stops[0].1 ≤ stops[i].1 := getElem_le_of_pairwise hsorted _ (Nat.zero_le i)
    rw [hlow.antisymm (hbelow.trans hfirst), sub_self, Real.rpow_zero] at hover
    exact absurd hover one_le_greatestDouble.not_gt
  · rw [Extended.number_le_number] at habove
    refine .inr ⟨?_, _, h⟩
    rintro ⟨i, hi, hlow, hhigh, hover⟩
    have hlast := le_of_around hsorted (Nat.sub_one_lt hpos.ne') hi habove hhigh
    omega
  · cases hr
    rcases extendedBetween_cases ln hbase hlower hupper with ⟨hover, hnan⟩ | ⟨hle, y, hy⟩
    · rw [hnan] at h
      exact .inl ⟨⟨j, hj, hlower, hupper, hover⟩, h⟩
    · rw [hy] at h
      refine .inr ⟨?_, y, h⟩
      rintro ⟨i, hi, hlow, hhigh, hover⟩
      have hij : i ≤ j := le_of_around hsorted _ hj hlow hupper
      have hji : j ≤ i := le_of_around hsorted _ hi hlower hhigh
      obtain rfl : i = j := hij.antisymm hji
      exact absurd hover hle.not_gt

end Sorted

/-- Where powers are exact but for overflowing, the factor of an input between two numbers is NaN
exactly if the power for the way made overflows, and else a number from zero to one. So what is
interpolated between stops, however they stood, is NaN at the inputs where this occurs, and at no
others. -/
theorem exactInterpolate?_ordered_eq_nan_iff (hbase : 0 < base) (hne : stops ≠ [])
    (ln : Extended ℝ → Extended ℝ) :
    (∀ lower upper x : ℝ, lower ≤ x → x < upper →
      let t := @factor _ (Scalar.extended overflowingPow ln) (.number base) (.number x)
        (.number lower) (.number upper)
      (t = .nan ↔ greatestDouble < base ^ (x - lower)) ∧
        (t ≠ .nan → ∃ r ∈ Set.Icc (0 : ℝ) 1, t = .number r)) ∧
    ∀ x : ℝ,
      let y := exactInterpolate? overflowingPow ln base (ordered id stops) (.number x)
      (y = some .nan ↔ Overflows base (ordered id stops) x) ∧
        (y ≠ some .nan → ∃ r, y = some (.number r)) := by
  have hpos : 0 < (ordered id stops).length := by
    rw [(ordered_perm id stops).length_eq]
    exact List.length_pos_of_ne_nil hne
  constructor
  · intro lower upper x hlow hhigh t
    rcases factor_cases ln hbase hlow hhigh with ⟨hover, ht⟩ | ⟨hle, r, hr, ht⟩
    · exact ⟨iff_of_true ht hover, fun hnot => absurd ht hnot⟩
    · refine ⟨iff_of_false (fun hnan => ?_) hle.not_gt, fun _ => ⟨r, hr, ht⟩⟩
      exact Extended.number_ne_nan r (ht.symm.trans hnan)
  · intro x y
    rcases exactInterpolate?_overflow_cases ln (pairwise_ordered id stops) hbase hpos x with
      ⟨hover, hy⟩ | ⟨hnot, r, hy⟩
    · exact ⟨iff_of_true hy hover, fun hne => absurd hy hne⟩
    · refine ⟨iff_of_false (fun hnan => ?_) hnot, fun _ => ⟨r, hy⟩⟩
      exact Extended.number_ne_nan r (Option.some.inj (hy.symm.trans hnan))

/-- From the 1024th on, powers of two are above all doubles. -/
theorem greatestDouble_lt_two_rpow {exponent : ℝ} (h : 1024 ≤ exponent) :
    greatestDouble < 2 ^ exponent := by
  have hsignificand : (2 ^ 53 - 1 : ℝ) < 2 ^ 53 := sub_one_lt _
  calc greatestDouble < 2 ^ 53 * 2 ^ 971 :=
        mul_lt_mul_of_pos_right hsignificand (pow_pos two_pos 971)
    _ = 2 ^ (1024 : ℝ) := by rw [← pow_add, Real.rpow_ofNat]
    _ ≤ 2 ^ exponent := Real.rpow_le_rpow_of_exponent_le one_le_two h

/-- A stop at three thousand, and powers of two. -/
theorem exactInterpolate?_ordered_eq_nan_iff_far :
    let stops : List (ℝ × ℝ) := [(0, 1), (3000, 10)]
    (0 : ℝ) < 2 ∧ stops ≠ [] ∧
      (@factor _ (Scalar.extended overflowingPow Extended.log) (.number 2) (.number 2000)
        (.number 0) (.number 3000) = .nan ↔ greatestDouble < 2 ^ ((2000 : ℝ) - 0)) ∧
      (exactInterpolate? overflowingPow Extended.log 2 (ordered id stops) (.number 2000) =
        some .nan ↔ Overflows 2 (ordered id stops) 2000) := by
  intro stops
  have hne : stops ≠ [] := List.cons_ne_nil _ _
  have hlow : (0 : ℝ) ≤ 2000 := by norm_num
  have hhigh : (2000 : ℝ) < 3000 := by norm_num
  obtain ⟨hfactor, hstops⟩ := exactInterpolate?_ordered_eq_nan_iff two_pos hne Extended.log
  exact ⟨two_pos, hne, (hfactor 0 3000 2000 hlow hhigh).1, (hstops 2000).1⟩

/-- From zero to three thousand, both powers of two are infinite at two thousand. -/
theorem factor_eq_nan_far :
    let stops : List (ℝ × ℝ) := [(0, 1), (3000, 10)]
    (0 : ℝ) < 2 ∧ (2 : ℝ) ≠ 1 ∧ (0 : ℝ) ≤ 2000 ∧ (2000 : ℝ) < 3000 ∧
      overflowingPow (.number 2) (.number (3000 - 0)) ≠ .number 1 ∧
      @factor _ (Scalar.extended overflowingPow Extended.log) (.number 2) (.number 2000)
        (.number 0) (.number 3000) = .nan ∧
      exactInterpolate? overflowingPow Extended.log 2 stops (.number 2000) = some .nan := by
  intro stops
  have hlow : (0 : ℝ) ≤ 2000 := by norm_num
  have hhigh : (2000 : ℝ) < 3000 := by norm_num
  have hover : greatestDouble < 2 ^ ((2000 : ℝ) - 0) := greatestDouble_lt_two_rpow (by norm_num)
  have hrange : overflowingPow (.number 2) (.number (3000 - 0)) = .infinity false :=
    overflowingPow_of_lt (greatestDouble_lt_two_rpow (by norm_num))
  have hsorted : stops.Pairwise fun s t => s.1 ≤ t.1 := by simp [stops]
  refine ⟨two_pos, by norm_num, hlow, hhigh, by rw [hrange]; nofun, ?_, ?_⟩
  · rcases factor_cases Extended.log two_pos hlow hhigh with ⟨-, ht⟩ | ⟨hle, -⟩
    · exact ht
    · exact absurd hover hle.not_gt
  · have hinside : Overflows 2 stops 2000 := ⟨0, by decide, hlow, hhigh, hover⟩
    rcases exactInterpolate?_overflow_cases Extended.log hsorted two_pos (by decide) 2000 with
      ⟨-, hy⟩ | ⟨hnot, -⟩
    · exact hy
    · exact absurd hinside hnot

end Stops

end MapStyling
