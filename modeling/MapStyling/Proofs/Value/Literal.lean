import Mathlib
import MapStyling.Value

/-!
# Values as literals

A value is written as a JSON literal and read back as it was, if its numbers are finite. For others
JSON has no literals, so a value that has one of them anywhere does not come back
(`Value.ofJson_toJson_iff`). Numbers come back with all their bits, the sign of a zero among them.
-/

namespace MapStyling.Value

/-- A number stands in a value, at any depth of its arrays. -/
inductive HasNumber : Value → Float → Prop
  | here {x : Float} : HasNumber (.number x) x
  | item {items : List Value} {value : Value} {x : Float} :
    value ∈ items → HasNumber value x → HasNumber (.array items) x

/-- All numbers in a value are finite. -/
def IsFinite (value : Value) : Prop :=
  ∀ x, value.HasNumber x → x.isFinite = true

@[simp] theorem isFinite_number {x : Float} : IsFinite (.number x) ↔ x.isFinite = true := by
  constructor
  · intro h
    exact h x .here
  · intro h y hy
    cases hy
    exact h

@[simp] theorem isFinite_string (s : String) : IsFinite (.string s) := by
  intro x hx
  cases hx

@[simp] theorem isFinite_array {items : List Value} :
    IsFinite (.array items) ↔ ∀ value ∈ items, value.IsFinite := by
  constructor
  · intro h value hvalue x hx
    exact h x (.item hvalue hx)
  · intro h x hx
    cases hx with
    | item hvalue hx => exact h _ hvalue x hx

/-- A number has a literal exactly if it is finite. -/
theorem ofJson_toJson_number (x : Float) :
    ofJson (toJson (.number x)) = .number x ↔ x.isFinite = true := by
  rw [toJson]
  split
  next finite => exact iff_of_true rfl finite
  next infinite => exact iff_of_false (fun h => nomatch h) infinite

mutual
/-- A value comes back from its literal exactly if its numbers are finite. -/
theorem ofJson_toJson_iff (value : Value) : ofJson value.toJson = value ↔ value.IsFinite := by
  match value with
  | .number x => rw [ofJson_toJson_number, isFinite_number]
  | .array items =>
    rw [isFinite_array, ← ofItems_toItems_iff items]
    exact ⟨Value.array.inj, congrArg Value.array⟩
  | .null | .bool _ | .string _ => exact iff_of_true rfl fun x hx => nomatch hx
theorem ofItems_toItems_iff (values : List Value) :
    ofItems (toItems values) = values ↔ ∀ value ∈ values, value.IsFinite := by
  match values with
  | [] => exact iff_of_true rfl fun value hvalue => nomatch hvalue
  | value :: values =>
    rw [List.forall_mem_cons, ← ofJson_toJson_iff value, ← ofItems_toItems_iff values]
    exact List.cons_eq_cons
end

end MapStyling.Value
