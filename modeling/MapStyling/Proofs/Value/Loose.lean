import MapStyling.Proofs.Double.Order

/-!
# Equality and order in filters

Filters compare values by an equality and by an order. Each has rules of its own for values of two
kinds, and the two agree (`Value.loose_coherent`): where values are ordered they are equal exactly
when the order says so, and values that are equal without being ordered are nulls or arrays.

A value that counts as a number has a place among the doubles (`Value.place?`). But for two texts,
two nulls and two arrays, both comparisons are those of the places.

Values that are equal as values of one kind are interchangeable in filters
(`Value.looseEq_congr_of_same`, `Value.looseCompare?_congr_of_same`), which of two zeros an
attribute is included.
-/

namespace MapStyling.Value

open Double

/-- The place among the doubles of the number that a value counts as. A value that counts as no
number or as NaN has none. -/
def place? (v : Value) : Option Int :=
  v.toNumber?.bind Double.place?

/-! ## The comparisons by places -/

/-- Values of which one is no text are ordered by their places. -/
theorem looseCompare?_eq_comparePlaces? {v w : Value}
    (hstrings : ∀ s t, v = .string s → w = .string t → False) :
    v.looseCompare? w = comparePlaces? v.place? w.place? := by
  unfold looseCompare? place?
  split
  · exact (hstrings _ _ rfl rfl).elim
  · cases v.toNumber? with
    | none => rfl
    | some x =>
      cases w.toNumber? with
      | none => simp
      | some y => exact Double.compareNumbers?_eq x y

/-- Values count as equal numbers if they have one place. -/
theorem equalAsNumbers_eq_comparePlaces? (v w : Value) :
    v.equalAsNumbers w = (comparePlaces? v.place? w.place? == some .eq) := by
  unfold equalAsNumbers place?
  cases v.toNumber? with
  | none => rfl
  | some x =>
    cases w.toNumber? with
    | none => simp
    | some y =>
      dsimp only
      rw [Double.beq_eq_compareNumbers?, Double.compareNumbers?_eq]
      rfl

theorem equalAsNumbers_of_right {v w : Value} (h : w.toNumber? = none) :
    v.equalAsNumbers w = false := by
  unfold equalAsNumbers
  rw [h]
  cases v.toNumber? <;> rfl

/-- But for two nulls, two texts and two arrays, values are equal that count as equal numbers. -/
theorem looseEq_eq_equalAsNumbers {v w : Value} (hnulls : v = .null → w = .null → False)
    (hstrings : ∀ s t, v = .string s → w = .string t → False)
    (harrays : ∀ vs ws, v = .array vs → w = .array ws → False) :
    v.looseEq w = v.equalAsNumbers w := by
  unfold looseEq
  split
  · exact (hnulls rfl rfl).elim
  · next a b => cases a <;> cases b <;> decide
  · rfl
  · exact (hstrings _ _ rfl rfl).elim
  · exact (harrays _ _ rfl rfl).elim
  · rfl
  · exact (equalAsNumbers_of_right rfl).symm
  · rfl
  · exact (equalAsNumbers_of_right rfl).symm
  · rfl

/-- But for two nulls and two arrays, values are equal when their order says so. -/
theorem looseEq_eq_looseCompare? {v w : Value} (hnulls : v = .null → w = .null → False)
    (harrays : ∀ vs ws, v = .array vs → w = .array ws → False) :
    v.looseEq w = (v.looseCompare? w == some .eq) := by
  by_cases hstrings : ∃ s t, v = .string s ∧ w = .string t
  · obtain ⟨s, t, rfl, rfl⟩ := hstrings
    rw [Bool.eq_iff_iff]
    simp [looseEq, looseCompare?]
  · have hpair : ∀ s t, v = .string s → w = .string t → False :=
      fun s t hv hw => hstrings ⟨s, t, hv, hw⟩
    rw [looseEq_eq_equalAsNumbers hnulls hpair harrays, equalAsNumbers_eq_comparePlaces?,
      looseCompare?_eq_comparePlaces? hpair]

/-! ## Laws -/

/-- Exchanging two values turns their order around. -/
theorem looseCompare?_swap (v w : Value) :
    w.looseCompare? v = (v.looseCompare? w).map Ordering.swap := by
  by_cases hstrings : ∃ s t, v = .string s ∧ w = .string t
  · obtain ⟨s, t, rfl, rfl⟩ := hstrings
    exact congrArg some Std.OrientedOrd.eq_swap
  · rw [looseCompare?_eq_comparePlaces? fun s t hw hv => hstrings ⟨t, s, hv, hw⟩,
      looseCompare?_eq_comparePlaces? fun s t hv hw => hstrings ⟨s, t, hv, hw⟩,
      comparePlaces?_swap]

/-- But for two nulls and two arrays, it does not matter for equality which value comes first. -/
theorem looseEq_comm_of_compared {v w : Value} (hnulls : v = .null → w = .null → False)
    (harrays : ∀ vs ws, v = .array vs → w = .array ws → False) : v.looseEq w = w.looseEq v := by
  rw [looseEq_eq_looseCompare? hnulls harrays,
    looseEq_eq_looseCompare? (fun hw hv => hnulls hv hw) (fun ws vs hw hv => harrays vs ws hv hw),
    looseCompare?_swap v w]
  rcases v.looseCompare? w with _ | _ | _ | _ <;> rfl

mutual
/-- It does not matter for equality which value comes first. -/
theorem looseEq_comm (v w : Value) : v.looseEq w = w.looseEq v := by
  match v with
  | .null =>
    match w with
    | .null => rfl
    | .bool _ | .number _ | .string _ | .array _ => exact looseEq_comm_of_compared nofun nofun
  | .bool _ | .number _ | .string _ => exact looseEq_comm_of_compared nofun nofun
  | .array vs =>
    match w with
    | .array ws => exact looseEqItems_comm vs ws
    | .null | .bool _ | .number _ | .string _ => exact looseEq_comm_of_compared nofun nofun
theorem looseEqItems_comm (vs ws : List Value) : looseEqItems vs ws = looseEqItems ws vs := by
  match vs, ws with
  | [], [] => rfl
  | [], _ :: _ => rfl
  | _ :: _, [] => rfl
  | v :: vs, w :: ws => rw [looseEqItems, looseEqItems, looseEq_comm v w, looseEqItems_comm vs ws]
end

mutual
/-- Values of one kind that are equal are equal in filters. -/
theorem looseEq_of_same (v w : Value) (h : v.same w = true) : v.looseEq w = true := by
  match v, w with
  | .null, .null => rfl
  | .bool _, .bool _ => exact h
  | .number _, .number _ => exact h
  | .string _, .string _ => exact h
  | .array vs, .array ws => exact looseEqItems_of_sameItems vs ws h
theorem looseEqItems_of_sameItems (vs ws : List Value) (h : sameItems vs ws = true) :
    looseEqItems vs ws = true := by
  match vs, ws with
  | [], [] => rfl
  | v :: vs, w :: ws =>
    obtain ⟨hfirst, hrest⟩ := Bool.and_eq_true_iff.mp h
    exact Bool.and_eq_true_iff.mpr
      ⟨looseEq_of_same v w hfirst, looseEqItems_of_sameItems vs ws hrest⟩
end

theorem looseEqItems_iff_forall₂ (vs ws : List Value) :
    looseEqItems vs ws = true ↔ List.Forall₂ (fun v w => v.looseEq w = true) vs ws := by
  induction vs generalizing ws with
  | nil => cases ws <;> simp [looseEqItems]
  | cons v vs ih => cases ws <;> simp [looseEqItems, ih]

/-- Nulls and arrays have no order. -/
theorem looseCompare?_eq_none {v w : Value} (hstring : v.string? = none)
    (h : v.toNumber? = none) : v.looseCompare? w = none := by
  have hstrings : ∀ s t, v = .string s → w = .string t → False := by
    rintro s t rfl -
    cases hstring
  rw [looseCompare?_eq_comparePlaces? hstrings, place?, h, Option.bind_none,
    comparePlaces?_none_left]

/-! ## Equal values -/

theorem looseCompare?_number (x : Float) (w : Value) :
    (number x).looseCompare? w = comparePlaces? (number x).place? w.place? :=
  looseCompare?_eq_comparePlaces? nofun

theorem looseEq_number (x : Float) (w : Value) :
    (number x).looseEq w = ((number x).looseCompare? w == some .eq) :=
  looseEq_eq_looseCompare? nofun nofun

/-- Values of one kind that are equal stand in the same order to any other. -/
theorem looseCompare?_congr_of_same {v w : Value} (h : v.same w = true) (u : Value) :
    v.looseCompare? u = w.looseCompare? u := by
  match v, w with
  | .null, .null => rfl
  | .bool a, .bool b => rw [of_decide_eq_true h]
  | .number x, .number y =>
    have hplace : place? (.number x) = place? (.number y) := Double.place?_eq_of_beq h
    rw [looseCompare?_number, looseCompare?_number, hplace]
  | .string s, .string t => rw [of_decide_eq_true h]
  | .array vs, .array ws => rw [looseCompare?_eq_none rfl rfl, looseCompare?_eq_none rfl rfl]

mutual
/-- Values of one kind that are equal equal the same values in filters. -/
theorem looseEq_congr_of_same (v w : Value) (h : v.same w = true) (u : Value) :
    v.looseEq u = w.looseEq u := by
  match v, w with
  | .null, .null => rfl
  | .bool a, .bool b => rw [of_decide_eq_true h]
  | .number x, .number y =>
    rw [looseEq_number, looseEq_number, looseCompare?_congr_of_same h]
  | .string s, .string t => rw [of_decide_eq_true h]
  | .array vs, .array ws =>
    match u with
    | .array us => exact looseEqItems_congr_of_sameItems vs ws h us
    | .null | .bool _ | .number _ | .string _ => rfl
theorem looseEqItems_congr_of_sameItems (vs ws : List Value) (h : sameItems vs ws = true)
    (us : List Value) : looseEqItems vs us = looseEqItems ws us := by
  match vs, ws with
  | [], [] => rfl
  | v :: vs, w :: ws =>
    obtain ⟨hfirst, hrest⟩ := Bool.and_eq_true_iff.mp h
    match us with
    | [] => rfl
    | u :: us =>
      rw [looseEqItems, looseEqItems, looseEq_congr_of_same v w hfirst,
        looseEqItems_congr_of_sameItems vs ws hrest]
end

/-- The equality and the order that filters compare values with are coherent:

1. equality does not depend on which value comes first;
2. values that are equal as values of one kind are equal in filters;
3. exchanging the values turns their order around, and values without an order have none either way;
4. values that are ordered are equal exactly when that is their order;
5. values that are equal without being ordered are two nulls, or two arrays with equal items. -/
theorem loose_coherent (v w : Value) :
    v.looseEq w = w.looseEq v ∧
    (v.same w = true → v.looseEq w = true) ∧
    w.looseCompare? v = (v.looseCompare? w).map Ordering.swap ∧
    (∀ order, v.looseCompare? w = some order → (v.looseEq w = true ↔ order = .eq)) ∧
    (v.looseEq w = true ∧ v.looseCompare? w = none ↔
      v = .null ∧ w = .null ∨
        ∃ vs ws, v = .array vs ∧ w = .array ws ∧
          List.Forall₂ (fun v w => v.looseEq w = true) vs ws) := by
  refine ⟨looseEq_comm v w, looseEq_of_same v w, looseCompare?_swap v w, ?_, ?_⟩
  · intro order horder
    have hcompared : v.looseEq w = (v.looseCompare? w == some .eq) := by
      refine looseEq_eq_looseCompare? ?_ ?_
      · rintro rfl -
        rw [looseCompare?_eq_none rfl rfl] at horder
        cases horder
      · rintro vs ws rfl -
        rw [looseCompare?_eq_none rfl rfl] at horder
        cases horder
    rw [hcompared, horder, beq_iff_eq, Option.some.injEq]
  · constructor
    · rintro ⟨heq, hnone⟩
      by_cases hnulls : v = .null ∧ w = .null
      · exact .inl hnulls
      by_cases harrays : ∃ vs ws, v = .array vs ∧ w = .array ws
      · obtain ⟨vs, ws, rfl, rfl⟩ := harrays
        exact .inr ⟨vs, ws, rfl, rfl, (looseEqItems_iff_forall₂ vs ws).mp heq⟩
      -- Any other values are equal only by their order, and there is none.
      · rw [looseEq_eq_looseCompare? (fun hv hw => hnulls ⟨hv, hw⟩)
          (fun vs ws hv hw => harrays ⟨vs, ws, hv, hw⟩), hnone] at heq
        cases heq
    · rintro (⟨rfl, rfl⟩ | ⟨vs, ws, rfl, rfl, hitems⟩)
      · exact ⟨rfl, rfl⟩
      · exact ⟨(looseEqItems_iff_forall₂ vs ws).mpr hitems, looseCompare?_eq_none rfl rfl⟩

end MapStyling.Value
