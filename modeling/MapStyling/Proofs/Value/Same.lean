import Mathlib
import MapStyling.Value.Compare

/-!
# Equal values

Values that compare as equal are the same, but for the signs of their zeros
(`Value.eq_of_same`): doubles have two zeros, and these are equal.
-/

namespace MapStyling

/-- Two numbers are not the two zeros. -/
def ZerosAlike (x y : Float) : Prop :=
  ¬(x = 0 ∧ y = -0) ∧ ¬(x = -0 ∧ y = 0)

/-- Equal numbers are the same, but for the two zeros. -/
theorem eq_of_beq_of_zerosAlike {x y : Float} (h : (x == y) = true) (hzeros : ZerosAlike x y) :
    x = y := by
  obtain ⟨-, -, heq | hpositive | hnegative⟩ := Float.beq_iff_ne_nan_and_eq.mp h
  · exact heq
  · exact absurd hpositive hzeros.1
  · exact absurd hnegative hzeros.2

namespace Value

mutual
/-- Nowhere in two values do the two zeros stand in the same place. -/
def ZerosAlike : Value → Value → Prop
  | .number x, .number y => MapStyling.ZerosAlike x y
  | .array vs, .array ws => ItemsZerosAlike vs ws
  | _, _ => True
/-- Nowhere in two lists of values do the two zeros stand in the same place. -/
def ItemsZerosAlike : List Value → List Value → Prop
  | v :: vs, w :: ws => v.ZerosAlike w ∧ ItemsZerosAlike vs ws
  | _, _ => True
end

mutual
/-- Equal values are the same, but for the signs of their zeros. -/
theorem eq_of_same (v w : Value) (h : v.same w = true) (hzeros : v.ZerosAlike w) : v = w := by
  match v, w with
  | .null, .null => rfl
  | .bool a, .bool b => exact congrArg Value.bool (of_decide_eq_true h)
  | .number x, .number y => exact congrArg Value.number (eq_of_beq_of_zerosAlike h hzeros)
  | .string s, .string t => exact congrArg Value.string (of_decide_eq_true h)
  | .array vs, .array ws => exact congrArg Value.array (eq_of_sameItems vs ws h hzeros)
theorem eq_of_sameItems (vs ws : List Value) (h : sameItems vs ws = true)
    (hzeros : ItemsZerosAlike vs ws) : vs = ws := by
  match vs, ws with
  | [], [] => rfl
  | v :: vs, w :: ws =>
    obtain ⟨hfirst, hrest⟩ := Bool.and_eq_true_iff.mp h
    rw [eq_of_same v w hfirst hzeros.1, eq_of_sameItems vs ws hrest hzeros.2]
end

/-- Equal attributes are the same, but for the signs of their zeros. -/
theorem eq_of_sameAttribute {v w : Option Value} (h : sameAttribute v w = true)
    (hzeros : ∀ a ∈ v, ∀ b ∈ w, a.ZerosAlike b) : v = w := by
  cases v with
  | none =>
    cases w with
    | none => rfl
    | some b => cases h
  | some a =>
    cases w with
    | none => cases h
    | some b => rw [eq_of_same a b h (hzeros a rfl b rfl)]

end Value

end MapStyling
