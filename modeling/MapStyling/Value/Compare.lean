import MapStyling.Value

/-!
# Comparing values

`Value.same` tells whether two values are equal. Filters compare more loosely: `Value.looseEq` lets a
number equal a text or a boolean that counts as the same number, and `Value.looseCompare?` orders two
texts as texts and any other pair by the numbers they count as.

Numbers compare as doubles do: the two zeros are equal, and NaN is equal to nothing, itself
included.
-/

namespace MapStyling

/-- The order of two numbers; none if one of them is NaN. -/
def compareNumbers? (x y : Float) : Option Ordering :=
  if x < y then some .lt
  else if y < x then some .gt
  else if x == y then some .eq
  else none

namespace Value

mutual
/-- Equality of values of one kind, item by item in arrays. -/
def same : Value → Value → Bool
  | .null, .null => true
  | .bool a, .bool b => a = b
  | .number x, .number y => x == y
  | .string s, .string t => s = t
  | .array vs, .array ws => sameItems vs ws
  | _, _ => false
/-- Equality of items, one by one. -/
def sameItems : List Value → List Value → Bool
  | [], [] => true
  | v :: vs, w :: ws => v.same w && sameItems vs ws
  | _, _ => false
end

/-- Equality of attributes: absent in both, or equal in both. -/
def sameAttribute : Option Value → Option Value → Bool
  | none, none => true
  | some v, some w => v.same w
  | _, _ => false

/-- Whether two values count as equal numbers. -/
def equalAsNumbers (v w : Value) : Bool :=
  match v.toNumber?, w.toNumber? with
  | some x, some y => x == y
  | _, _ => false

mutual
/-- Equality in filters. Values of one kind are compared as such; a number, a text and a boolean are
compared as the numbers they count as; null and arrays equal only their own kind. -/
def looseEq : Value → Value → Bool
  | .null, .null => true
  | .bool a, .bool b => a = b
  | .number x, .number y => x == y
  | .string s, .string t => s = t
  | .array vs, .array ws => looseEqItems vs ws
  | .null, _ | _, .null | .array _, _ | _, .array _ => false
  | v, w => v.equalAsNumbers w
/-- Equality of items in filters, one by one. -/
def looseEqItems : List Value → List Value → Bool
  | [], [] => true
  | v :: vs, w :: ws => v.looseEq w && looseEqItems vs ws
  | _, _ => false
end

/-- Order in filters. Two texts are ordered by their code points; any other pair is ordered by the
numbers they count as, if both count as one and neither is NaN. -/
def looseCompare? (v w : Value) : Option Ordering :=
  match v, w with
  | .string s, .string t => some (compare s t)
  | v, w =>
    match v.toNumber?, w.toNumber? with
    | some x, some y => compareNumbers? x y
    | _, _ => none

end Value

end MapStyling
