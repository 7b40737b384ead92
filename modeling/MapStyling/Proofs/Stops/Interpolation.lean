import MapStyling.Proofs.Extended
import MapStyling.Proofs.Stops

/-!
# Interpolation in exact numbers

In numbers that do not round, what is interpolated follows the stops (`Stops.Follows`): it goes through
all of them, keeps the first and the last output outside, and between two stops stays between their
outputs; if the outputs do not descend, it does not. It does not matter in what order the stops stood,
only their inputs have to differ (`Stops.exactInterpolate?_ordered_follows`). The formula is the one by
which functions with numeric outputs are evaluated (`PropertyFunction.evaluate_of_numbers`).

The factor strictly ascends from zero at one stop to one at the next, with the powers of a base above
one as with those of a base below one (`Stops.exactFactor_strictMono`). All else is where an input
stands among the stops (`Stops.exactInterpolate?_cases`).
-/

namespace MapStyling.Stops

/-! ## Stops in order -/

section Order

variable {K : Type} [LinearOrder K] {stops : List (K × K)}

section Inputs

variable (hsorted : stops.Pairwise fun s t => s.1 < t.1)

include hsorted

theorem strictMono_inputs : StrictMono fun i : Fin stops.length => stops[i].1 :=
  fun i j hij => List.pairwise_iff_getElem.mp hsorted i j i.isLt j.isLt hij

theorem input_le_iff {i j : Nat} (hi : i < stops.length) (hj : j < stops.length) :
    stops[i].1 ≤ stops[j].1 ↔ i ≤ j :=
  (strictMono_inputs hsorted).le_iff_le (a := ⟨i, hi⟩) (b := ⟨j, hj⟩)

theorem input_lt_iff {i j : Nat} (hi : i < stops.length) (hj : j < stops.length) :
    stops[i].1 < stops[j].1 ↔ i < j :=
  (strictMono_inputs hsorted).lt_iff_lt (a := ⟨i, hi⟩) (b := ⟨j, hj⟩)

end Inputs

theorem getElem_le_of_pairwise {α : Type} {f : α → K} {as : List α}
    (h : as.Pairwise fun a b => f a ≤ f b) {i j : Nat} (hj : j < as.length) (hij : i ≤ j) :
    f as[i] ≤ f as[j] := by
  rcases hij.eq_or_lt with rfl | hlt
  · exact le_rfl
  · exact List.pairwise_iff_getElem.mp h i j _ hj hlt

theorem output_le (houtputs : stops.Pairwise fun s t => s.2 ≤ t.2) {i j : Nat}
    (hj : j < stops.length) (hij : i ≤ j) : stops[i].2 ≤ stops[j].2 :=
  getElem_le_of_pairwise houtputs hj hij

end Order

variable {K : Type} [Field K] [LinearOrder K] {pow : Extended K → Extended K → Extended K}
  {ln : Extended K → Extended K} {base : K} {power : K → K}

/-! ## Between two stops -/

/-- How far a number is on the way from one number to another, by the powers of a base. -/
def exactFactor (power : K → K) (base x lower upper : K) : K :=
  if base = 1 then (x - lower) / (upper - lower)
  else (power (x - lower) - 1) / (power (upper - lower) - 1)

theorem exactFactor_lower (hpower : IsPower pow base power) (lower upper : K) :
    exactFactor power base lower lower upper = 0 := by
  simp [exactFactor, hpower.zero]

variable (pow ln) in
/-- Between two stops, the factor of numbers is an even part of the way, or one by the powers of the
base. -/
theorem factor_eq {lower upper : K} (hne : upper ≠ lower) (base x : K) :
    @factor _ (Scalar.extended pow ln) (.number base) (.number x) (.number lower) (.number upper) =
      if base = 1 then .number ((x - lower) / (upper - lower))
      else ((pow (.number base) (.number (x - lower))).sub (.number 1)).div
        ((pow (.number base) (.number (upper - lower))).sub (.number 1)) := by
  have hrange : upper - lower ≠ 0 := sub_ne_zero.mpr hne
  show (if decide (upper - lower = ((0 : Nat) : K)) then _
    else if decide (base = ((1 : Nat) : K)) then
      Extended.div (.number (x - lower)) (.number (upper - lower))
    else Extended.div
      (Extended.sub (pow (.number base) (.number (x - lower))) (.number ((1 : Nat) : K)))
      (Extended.sub (pow (.number base) (.number (upper - lower))) (.number ((1 : Nat) : K)))) = _
  simp [hrange, Extended.div]

/-- If the powers are numbers, so is the factor. -/
theorem factor_number (hpower : IsPower pow base power) {lower upper : K} (hne : upper ≠ lower)
    (x : K) :
    @factor _ (Scalar.extended pow ln) (.number base) (.number x) (.number lower) (.number upper) =
      .number (exactFactor power base x lower upper) := by
  have hrange : upper - lower ≠ 0 := sub_ne_zero.mpr hne
  rw [factor_eq pow ln hne, hpower.number, hpower.number]
  unfold exactFactor
  by_cases hbase : base = 1
  · rw [if_pos hbase, if_pos hbase]
  · rw [if_neg hbase, if_neg hbase]
    simp [Extended.div, Extended.sub, hpower.sub_one_ne_zero hbase hrange]

/-- What the outputs of two stops mix into. -/
def exactBetween (power : K → K) (base : K) (a b : K × K) (x : K) : K :=
  a.2 + (b.2 - a.2) * exactFactor power base x a.1 b.1

theorem exactBetween_lower (hpower : IsPower pow base power) (a b : K × K) :
    exactBetween power base a b a.1 = a.2 := by
  rw [exactBetween, exactFactor_lower hpower, mul_zero, add_zero]

/-! ## Interpolating -/

/-- Stops in extended numbers. -/
def extend (stops : List (K × K)) : List (Extended K × Extended K) :=
  stops.map (Prod.map .number .number)

/-- Interpolation in extended numbers, between stops that are numbers. -/
def exactInterpolate? (pow : Extended K → Extended K → Extended K) (ln : Extended K → Extended K)
    (base : K) (stops : List (K × K)) (x : Extended K) : Option (Extended K) :=
  let := Scalar.extended pow ln
  interpolate? mix (.number base) x (extend stops)

variable {stops : List (K × K)} {x x' : Extended K} {y y' : K}

omit [Field K] [LinearOrder K] in
theorem head?_extend (hpos : 0 < stops.length) :
    (extend stops).head? = some (.number stops[0].1, .number stops[0].2) := by
  rw [extend, List.head?_map, List.head?_eq_getElem?, List.getElem?_eq_getElem hpos]
  rfl

omit [Field K] [LinearOrder K] in
theorem getLast?_extend (hpos : 0 < stops.length) :
    (extend stops).getLast? =
      some (.number stops[stops.length - 1].1, .number stops[stops.length - 1].2) := by
  rw [extend, List.getLast?_map, List.getLast?_eq_getElem?,
    List.getElem?_eq_getElem (Nat.sub_one_lt hpos.ne')]
  rfl

/-- The stops around a number. -/
theorem exists_around?_extend (pow : Extended K → Extended K → Extended K)
    (ln : Extended K → Extended K) (hpos : 0 < stops.length) {r : K} (hlow : stops[0].1 ≤ r)
    (hhigh : ¬ stops[stops.length - 1].1 ≤ r) :
    ∃ i, ∃ hi : i + 1 < stops.length, stops[i].1 ≤ r ∧ r < stops[i + 1].1 ∧
      @around? _ _ (Scalar.extended pow ln) (.number r) (extend stops) =
        some ((.number stops[i].1, .number stops[i].2),
          (.number stops[i + 1].1, .number stops[i + 1].2)) := by
  let := Scalar.extended pow ln
  obtain ⟨i, hi, hcount, haround⟩ := exists_around? (x := Extended.number r) (head?_extend hpos)
    (getLast?_extend hpos) (decide_eq_true hlow) (mt of_decide_eq_true hhigh)
  have hlower := le_of_lt_countBelow (x := Extended.number r) (Nat.lt_of_succ_lt hi) (by omega)
  have hupper := not_le_of_eq_countBelow hi hcount.symm
  simp only [extend, List.getElem_map] at hlower hupper haround
  refine ⟨i, hi.trans_eq (List.length_map _), of_decide_eq_true hlower, ?_, haround⟩
  exact lt_of_not_ge (of_decide_eq_false hupper)

/-- What the outputs of two stops mix into, in extended numbers. -/
def extendedBetween (pow : Extended K → Extended K → Extended K) (ln : Extended K → Extended K)
    (base : K) (a b : K × K) (x : K) : Extended K :=
  let := Scalar.extended pow ln
  mix (factor (.number base) (.number x) (.number a.1) (.number b.1)) (.number a.2) (.number b.2)

variable (pow ln base) in
/-- An extended number stands below all stops, above all, or is a number that stands between two. -/
theorem exactInterpolate?_places (hpos : 0 < stops.length) (hx : x ≠ .nan) :
    (x ≤ .number stops[0].1 ∧
      exactInterpolate? pow ln base stops x = some (.number stops[0].2)) ∨
    (.number stops[stops.length - 1].1 ≤ x ∧
      exactInterpolate? pow ln base stops x = some (.number stops[stops.length - 1].2)) ∨
    ∃ i, ∃ hi : i + 1 < stops.length, ∃ r, x = .number r ∧ stops[i].1 ≤ r ∧ r < stops[i + 1].1 ∧
      exactInterpolate? pow ln base stops x =
        some (extendedBetween pow ln base stops[i] stops[i + 1] r) := by
  let := Scalar.extended pow ln
  have hnan : Scalar.isNaN x = false := Scalar.isNaN_extended hx
  unfold exactInterpolate?
  rw [interpolate?_eq (head?_extend hpos) (getLast?_extend hpos), hnan, Bool.false_or]
  split
  next hle => exact .inl ⟨hle, rfl⟩
  next hlow =>
    split
    next hge => exact .inr (.inl ⟨hge, rfl⟩)
    next hhigh =>
      have hlow := Extended.number_le_of_not_le hx hlow
      obtain ⟨r, rfl⟩ := Extended.exists_number hlow hhigh
      rw [Extended.number_le_number] at hlow
      obtain ⟨i, hi, hlower, hupper, haround⟩ :=
        exists_around?_extend pow ln hpos hlow (mt decide_eq_true hhigh)
      refine .inr (.inr ⟨i, hi, r, rfl, hlower, hupper, ?_⟩)
      rw [haround]
      rfl

variable (ln) in
/-- Where the powers are numbers, so is what is interpolated between two stops. -/
theorem exactInterpolate?_cases (hpower : IsPower pow base power) (hpos : 0 < stops.length)
    (hx : x ≠ .nan) :
    (x ≤ .number stops[0].1 ∧
      exactInterpolate? pow ln base stops x = some (.number stops[0].2)) ∨
    (.number stops[stops.length - 1].1 ≤ x ∧
      exactInterpolate? pow ln base stops x = some (.number stops[stops.length - 1].2)) ∨
    ∃ i, ∃ hi : i + 1 < stops.length, ∃ r, x = .number r ∧ stops[i].1 ≤ r ∧ r < stops[i + 1].1 ∧
      exactInterpolate? pow ln base stops x =
        some (.number (exactBetween power base stops[i] stops[i + 1] r)) := by
  rcases exactInterpolate?_places pow ln base hpos hx with
    hbelow | habove | ⟨i, hi, r, hr, hlower, hupper, h⟩
  · exact .inl hbelow
  · exact .inr (.inl habove)
  · refine .inr (.inr ⟨i, hi, r, hr, hlower, hupper, ?_⟩)
    have hdistinct : stops[i + 1].1 ≠ stops[i].1 := (hlower.trans_lt hupper).ne'
    rw [h, extendedBetween, factor_number hpower hdistinct]
    rfl

/-- At every input but NaN a number is interpolated. -/
theorem exists_exactInterpolate? (hpower : IsPower pow base power) (hpos : 0 < stops.length)
    (hx : x ≠ .nan) : ∃ y, exactInterpolate? pow ln base stops x = some (.number y) := by
  rcases exactInterpolate?_cases ln hpower hpos hx with ⟨-, h⟩ | ⟨-, h⟩ | ⟨i, hi, r, -, -, -, h⟩ <;>
    exact ⟨_, h⟩

section Sorted

variable (hpower : IsPower pow base power) (hsorted : stops.Pairwise fun s t => s.1 < t.1)

include hpower hsorted

/-- At the input of a stop stands its output. -/
theorem exactInterpolate?_input {k : Nat} (hk : k < stops.length) :
    exactInterpolate? pow ln base stops (.number stops[k].1) = some (.number stops[k].2) := by
  have hpos : 0 < stops.length := by omega
  rcases exactInterpolate?_cases ln hpower hpos (Extended.number_ne_nan _) with
    ⟨hle, h⟩ | ⟨hge, h⟩ | ⟨i, hi, r, hr, hlower, hupper, h⟩
  · have hk0 := (input_le_iff hsorted hk _).mp ((Extended.number_le_number _ _).mp hle)
    obtain rfl : k = 0 := by omega
    exact h
  · have hlast := (input_le_iff hsorted _ hk).mp ((Extended.number_le_number _ _).mp hge)
    obtain rfl : k = stops.length - 1 := by omega
    exact h
  · cases hr
    have hik : i ≤ k := (input_le_iff hsorted _ hk).mp hlower
    have hki : k < i + 1 := (input_lt_iff hsorted hk hi).mp hupper
    obtain rfl : i = k := by omega
    rw [h, exactBetween_lower hpower]

/-- Below all stops stands the first output. -/
theorem exactInterpolate?_below (hpos : 0 < stops.length) (hx : x ≤ .number stops[0].1) :
    exactInterpolate? pow ln base stops x = some (.number stops[0].2) := by
  rcases exactInterpolate?_cases ln hpower hpos (Extended.ne_nan_of_le hx).1 with
    ⟨-, h⟩ | ⟨hge, h⟩ | ⟨i, hi, r, rfl, hlower, -, -⟩
  · exact h
  · have hle := (Extended.number_le_number _ _).mp (Extended.le_trans hge hx)
    have hsingle := (input_le_iff hsorted _ hpos).mp hle
    simpa only [Nat.le_zero.mp hsingle] using h
  · have hx : r ≤ stops[0].1 := (Extended.number_le_number _ _).mp hx
    obtain rfl := Nat.le_zero.mp ((input_le_iff hsorted _ hpos).mp (hlower.trans hx))
    rw [hx.antisymm hlower, exactInterpolate?_input hpower hsorted]

/-- Above all stops stands the last output. -/
theorem exactInterpolate?_above (hpos : 0 < stops.length)
    (hx : .number stops[stops.length - 1].1 ≤ x) :
    exactInterpolate? pow ln base stops x = some (.number stops[stops.length - 1].2) := by
  rcases exactInterpolate?_cases ln hpower hpos (Extended.ne_nan_of_le hx).2 with
    ⟨hle, h⟩ | ⟨-, h⟩ | ⟨i, hi, r, rfl, -, hupper, -⟩
  · have hle := (Extended.number_le_number _ _).mp (Extended.le_trans hx hle)
    have hsingle := (input_le_iff hsorted _ hpos).mp hle
    simpa only [Nat.le_zero.mp hsingle] using h
  · exact h
  · have hx : stops[stops.length - 1].1 ≤ r := (Extended.number_le_number _ _).mp hx
    have hlast := (input_lt_iff hsorted _ hi).mp (hx.trans_lt hupper)
    omega

end Sorted

/-! ## The way from stop to stop -/

section Way

variable [IsStrictOrderedRing K]

theorem exactFactor_upper (hpower : IsPower pow base power) {lower upper : K} (hlt : lower < upper) :
    exactFactor power base upper lower upper = 1 := by
  have hrange : upper - lower ≠ 0 := (sub_pos.mpr hlt).ne'
  unfold exactFactor
  split
  · exact div_self hrange
  next hbase => exact div_self (hpower.sub_one_ne_zero hbase hrange)

/-- The way is made without a step back. -/
theorem exactFactor_strictMono (hpower : IsPower pow base power) {lower upper : K}
    (hlt : lower < upper) : StrictMono fun x => exactFactor power base x lower upper := by
  intro x y hxy
  have hrange : 0 < upper - lower := sub_pos.mpr hlt
  have hprogress : x - lower < y - lower := sub_lt_sub_right hxy lower
  dsimp only
  unfold exactFactor
  -- Below one the powers descend, and so both what is divided and the divisor are negative.
  rcases lt_trichotomy base 1 with hbase | hbase | hbase
  · have hdescends := hpower.strictAnti hbase
    have hwhole : power (upper - lower) - 1 < 0 := by
      rw [sub_neg, ← hpower.zero]
      exact hdescends hrange
    rw [if_neg hbase.ne, if_neg hbase.ne, div_lt_div_right_of_neg hwhole]
    exact sub_lt_sub_right (hdescends hprogress) 1
  · rw [if_pos hbase, if_pos hbase]
    exact div_lt_div_of_pos_right hprogress hrange
  · have hascends := hpower.strictMono hbase
    have hwhole : 0 < power (upper - lower) - 1 := by
      rw [sub_pos, ← hpower.zero]
      exact hascends hrange
    rw [if_neg hbase.ne', if_neg hbase.ne']
    exact div_lt_div_of_pos_right (sub_lt_sub_right (hascends hprogress) 1) hwhole

/-- Between two stops the way is neither behind the first nor beyond the second. -/
theorem exactFactor_mem_Icc (hpower : IsPower pow base power) {lower upper x : K}
    (hlt : lower < upper) (hlow : lower ≤ x) (hhigh : x ≤ upper) :
    exactFactor power base x lower upper ∈ Set.Icc 0 1 := by
  have hmono := (exactFactor_strictMono hpower hlt).monotone
  rw [← exactFactor_lower hpower lower upper, ← exactFactor_upper hpower hlt]
  exact ⟨hmono hlow, hmono hhigh⟩

variable {a b : K × K}

theorem exactBetween_upper (hpower : IsPower pow base power) (hlt : a.1 < b.1) :
    exactBetween power base a b b.1 = b.2 := by
  rw [exactBetween, exactFactor_upper hpower hlt, mul_one, add_sub_cancel]

/-- From a smaller output to a greater one the way goes up. -/
theorem exactBetween_monotone (hpower : IsPower pow base power) (hlt : a.1 < b.1) (hle : a.2 ≤ b.2) :
    Monotone (exactBetween power base a b) := by
  intro x y hxy
  have hfactor := (exactFactor_strictMono hpower hlt).monotone hxy
  exact add_le_add_right (mul_le_mul_of_nonneg_left hfactor (sub_nonneg.mpr hle)) a.2

/-- From a greater output to a smaller one it goes down. -/
theorem exactBetween_antitone (hpower : IsPower pow base power) (hlt : a.1 < b.1) (hge : b.2 ≤ a.2) :
    Antitone (exactBetween power base a b) := by
  intro x y hxy
  have hfactor := (exactFactor_strictMono hpower hlt).monotone hxy
  exact add_le_add_right (mul_le_mul_of_nonpos_left hfactor (sub_nonpos.mpr hge)) a.2

/-- Between two stops the way stays between their outputs. -/
theorem exactBetween_mem_uIcc (hpower : IsPower pow base power) (hlt : a.1 < b.1) {x : K}
    (hlow : a.1 ≤ x) (hhigh : x ≤ b.1) : exactBetween power base a b x ∈ Set.uIcc a.2 b.2 := by
  have hlower := exactBetween_lower hpower a b
  have hupper := exactBetween_upper hpower hlt
  rcases le_total a.2 b.2 with hle | hge
  · have hmono := exactBetween_monotone hpower hlt hle
    rw [Set.uIcc_of_le hle]
    exact ⟨hlower.symm.trans_le (hmono hlow), (hmono hhigh).trans_eq hupper⟩
  · have hanti := exactBetween_antitone hpower hlt hge
    rw [Set.uIcc_of_ge hge]
    exact ⟨hupper.symm.trans_le (hanti hhigh), (hanti hlow).trans_eq hlower⟩

variable (hpower : IsPower pow base power) (hsorted : stops.Pairwise fun s t => s.1 < t.1)

include hpower hsorted

/-- From a stop to the next one stands what their outputs mix into. -/
theorem exactInterpolate?_between {i : Nat} (hi : i + 1 < stops.length) {r : K}
    (hlower : stops[i].1 ≤ r) (hupper : r ≤ stops[i + 1].1) :
    exactInterpolate? pow ln base stops (.number r) =
      some (.number (exactBetween power base stops[i] stops[i + 1] r)) := by
  have hstep : stops[i].1 < stops[i + 1].1 := (input_lt_iff hsorted _ hi).mpr (Nat.lt_succ_self i)
  rcases hupper.eq_or_lt with rfl | hupper
  · rw [exactInterpolate?_input hpower hsorted, exactBetween_upper hpower hstep]
  have hpos : 0 < stops.length := by omega
  rcases exactInterpolate?_cases ln hpower hpos (Extended.number_ne_nan r) with
    ⟨hle, h⟩ | ⟨hge, h⟩ | ⟨j, hj, r', hr, hlower', hupper', h⟩
  · have hle : r ≤ stops[0].1 := (Extended.number_le_number _ _).mp hle
    have hi0 := (input_le_iff hsorted _ _).mp (hlower.trans hle)
    obtain rfl : i = 0 := by omega
    rw [h, hle.antisymm hlower, exactBetween_lower hpower]
  · have hge : stops[stops.length - 1].1 ≤ r := (Extended.number_le_number _ _).mp hge
    have hlast := (input_lt_iff hsorted _ hi).mp (hge.trans_lt hupper)
    omega
  · cases hr
    have hij : i < j + 1 := (input_lt_iff hsorted _ hj).mp (hlower.trans_lt hupper')
    have hji : j < i + 1 := (input_lt_iff hsorted _ hi).mp (hlower'.trans_lt hupper)
    obtain rfl : i = j := by omega
    exact h

variable (houtputs : stops.Pairwise fun s t => s.2 ≤ t.2)

include houtputs

/-- Where outputs do not descend, nothing above a stop is below its output. -/
theorem output_le_of_exactInterpolate? {k : Nat} (hk : k < stops.length)
    (hx : .number stops[k].1 ≤ x) (hy : exactInterpolate? pow ln base stops x = some (.number y)) :
    stops[k].2 ≤ y := by
  have hpos : 0 < stops.length := by omega
  rcases exactInterpolate?_cases ln hpower hpos (Extended.ne_nan_of_le hx).2 with
    ⟨hle, h⟩ | ⟨-, h⟩ | ⟨i, hi, r, rfl, hlower, hupper, h⟩ <;> cases h.symm.trans hy
  · have hk0 := (input_le_iff hsorted hk hpos).mp
      ((Extended.number_le_number _ _).mp (Extended.le_trans hx hle))
    exact output_le houtputs _ hk0
  · exact output_le houtputs _ (by omega)
  · have hx : stops[k].1 ≤ r := (Extended.number_le_number _ _).mp hx
    have hki : k < i + 1 := (input_lt_iff hsorted hk hi).mp (hx.trans_lt hupper)
    have hstep := exactBetween_monotone hpower (hlower.trans_lt hupper)
      (output_le houtputs hi (Nat.le_succ i)) hlower
    rw [exactBetween_lower hpower] at hstep
    exact (output_le houtputs _ (by omega)).trans hstep

/-- Where outputs do not descend, nor does what is interpolated. -/
theorem exactInterpolate?_monotone (hpos : 0 < stops.length) (hle : x ≤ x')
    (hy : exactInterpolate? pow ln base stops x = some (.number y))
    (hy' : exactInterpolate? pow ln base stops x' = some (.number y')) : y ≤ y' := by
  obtain ⟨hnan, hnan'⟩ := Extended.ne_nan_of_le hle
  rcases exactInterpolate?_cases ln hpower hpos hnan with
    ⟨-, h⟩ | ⟨hge, h⟩ | ⟨i, hi, r, rfl, hlower, hupper, h⟩ <;> cases h.symm.trans hy
  · rcases exactInterpolate?_cases ln hpower hpos hnan' with
      ⟨-, h'⟩ | ⟨-, h'⟩ | ⟨i, hi, r, rfl, hlower, -, -⟩
    · cases h'.symm.trans hy'
      exact le_rfl
    · cases h'.symm.trans hy'
      exact output_le houtputs _ (Nat.zero_le _)
    · have hbound := output_le_of_exactInterpolate? hpower hsorted houtputs _
        ((Extended.number_le_number _ _).mpr hlower) hy'
      exact (output_le houtputs _ (Nat.zero_le i)).trans hbound
  · exact output_le_of_exactInterpolate? hpower hsorted houtputs _ (Extended.le_trans hge hle) hy'
  · have hstep := exactBetween_monotone hpower (hlower.trans_lt hupper)
      (output_le houtputs hi (Nat.le_succ i))
    -- Either the greater input has left these two stops behind, or it is between them as well.
    by_cases hnext : .number stops[i + 1].1 ≤ x'
    · have hbefore := hstep hupper.le
      rw [exactBetween_upper hpower (hlower.trans_lt hupper)] at hbefore
      exact hbefore.trans (output_le_of_exactInterpolate? hpower hsorted houtputs hi hnext hy')
    · obtain ⟨r', rfl⟩ := Extended.exists_number hle hnext
      have hle : r ≤ r' := (Extended.number_le_number _ _).mp hle
      have hnext : r' < stops[i + 1].1 :=
        lt_of_not_ge fun h => hnext ((Extended.number_le_number _ _).mpr h)
      rw [exactInterpolate?_between hpower hsorted hi (hlower.trans hle) hnext.le] at hy'
      cases hy'
      exact hstep hle

end Way

/-! ## Following stops -/

/-- A function of extended numbers follows stops. -/
structure Follows (f : Extended K → Option (Extended K)) (stops : List (K × K)) : Prop where
  /-- It has a number at every input but NaN. -/
  number : ∀ x, x ≠ .nan → ∃ y, f x = some (.number y)
  /-- At the input of a stop it has its output. -/
  input : ∀ stop ∈ stops, f (.number stop.1) = some (.number stop.2)
  /-- Below all stops it has the output of the first. -/
  below : ∃ first ∈ stops, (∀ stop ∈ stops, first.1 ≤ stop.1) ∧
    ∀ x, x ≤ .number first.1 → f x = some (.number first.2)
  /-- Above all stops it has the output of the last. -/
  above : ∃ last ∈ stops, (∀ stop ∈ stops, stop.1 ≤ last.1) ∧
    ∀ x, .number last.1 ≤ x → f x = some (.number last.2)
  /-- From a stop to the next one it stays between their outputs. -/
  between : ∀ i (hi : i + 1 < stops.length) r, stops[i].1 ≤ r → r ≤ stops[i + 1].1 →
    ∃ y ∈ Set.uIcc stops[i].2 stops[i + 1].2, f (.number r) = some (.number y)
  /-- If the outputs do not descend, it does not. -/
  monotone : stops.Pairwise (fun s t => s.2 ≤ t.2) → ∀ x x' y y', x ≤ x' →
    f x = some (.number y) → f x' = some (.number y') → y ≤ y'

theorem follows_of_pairwise [IsStrictOrderedRing K] (hpower : IsPower pow base power)
    (hpos : 0 < stops.length) (hsorted : stops.Pairwise fun s t => s.1 < t.1) :
    Follows (exactInterpolate? pow ln base stops) stops where
  number x hx := exists_exactInterpolate? hpower hpos hx
  input stop hstop := by
    obtain ⟨k, hk, rfl⟩ := List.getElem_of_mem hstop
    exact exactInterpolate?_input hpower hsorted hk
  below := by
    refine ⟨stops[0], List.getElem_mem hpos, fun stop hstop => ?_, fun x hx =>
      exactInterpolate?_below hpower hsorted hpos hx⟩
    obtain ⟨k, hk, rfl⟩ := List.getElem_of_mem hstop
    exact (input_le_iff hsorted hpos hk).mpr (Nat.zero_le k)
  above := by
    refine ⟨stops[stops.length - 1], List.getElem_mem _, fun stop hstop => ?_, fun x hx =>
      exactInterpolate?_above hpower hsorted hpos hx⟩
    obtain ⟨k, hk, rfl⟩ := List.getElem_of_mem hstop
    exact (input_le_iff hsorted hk _).mpr (by omega)
  between i hi r hlower hupper :=
    have hstep := (input_lt_iff hsorted _ hi).mpr (Nat.lt_succ_self i)
    ⟨_, exactBetween_mem_uIcc hpower hstep hlower hupper,
      exactInterpolate?_between hpower hsorted hi hlower hupper⟩
  monotone houtputs _ _ _ _ := exactInterpolate?_monotone hpower hsorted houtputs hpos

/-- In exact numbers, what is interpolated between stops of different inputs follows the stops, however
they stood. -/
theorem exactInterpolate?_ordered_follows [IsStrictOrderedRing K] (hpower : IsPower pow base power)
    (hne : stops ≠ []) (hdistinct : stops.Pairwise fun s t => s.1 ≠ t.1)
    (ln : Extended K → Extended K) :
    (ordered id stops).Perm stops ∧ (ordered id stops).Pairwise (fun s t => s.1 < t.1) ∧
      Follows (exactInterpolate? pow ln base (ordered id stops)) (ordered id stops) := by
  have hperm := ordered_perm id stops
  have hsorted := pairwise_lt_ordered id hdistinct
  have hpos : 0 < (ordered id stops).length := by
    rw [hperm.length_eq]
    exact List.length_pos_of_ne_nil hne
  exact ⟨hperm, hsorted, follows_of_pairwise hpower hpos hsorted⟩

/-- Three stops, the last one declared first, and powers of two. -/
theorem exactInterpolate?_ordered_follows_widths :
    let stops : List (ℝ × ℝ) := [(10, 5), (0, 1), (4, 2)]
    IsPower Extended.rpow (2 : ℝ) (2 ^ ·) ∧ stops ≠ [] ∧ stops.Pairwise (fun s t => s.1 ≠ t.1) ∧
      (ordered id stops).Perm stops ∧ (ordered id stops).Pairwise (fun s t => s.1 < t.1) ∧
      Follows (exactInterpolate? Extended.rpow Extended.log 2 (ordered id stops))
        (ordered id stops) := by
  have hpower : IsPower Extended.rpow (2 : ℝ) (2 ^ ·) := isPower_rpow two_pos
  have hdistinct : [((10 : ℝ), (5 : ℝ)), (0, 1), (4, 2)].Pairwise fun s t => s.1 ≠ t.1 := by
    norm_num
  exact ⟨hpower, List.cons_ne_nil _ _, hdistinct,
    exactInterpolate?_ordered_follows hpower (List.cons_ne_nil _ _) hdistinct Extended.log⟩

end MapStyling.Stops
