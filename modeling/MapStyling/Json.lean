import MapStyling.Keyed
import MapStyling.Decimal.Read

/-!
# JSON values

The values of a JSON text. Whole numbers are kept apart from numbers with a fraction or an exponent,
since a style's version has to be written as a whole number. The members of an object are entries by
key; one that is read from a text has them in ascending order, with one entry for each key
(`Json.ascending_of_parse?`).
-/

namespace MapStyling

/-- A number of a JSON text. -/
inductive Json.Number where
  /-- A number written without point and exponent that fits 64 bits. -/
  | integer (value : Int)
  /-- Any other number. JSON has no texts for infinities and NaN. -/
  | float (value : Float) (finite : value.isFinite = true)

/-- A JSON value. -/
inductive Json where
  | null
  | bool (value : Bool)
  | number (value : Json.Number)
  | string (value : String)
  | array (items : List Json)
  | object (members : List (String × Json))

namespace Json

instance : Inhabited Json := ⟨.null⟩

/-- The number as a double. -/
def Number.toFloat : Number → Float
  | .integer i => Decimal.floatOfInt i
  | .float x _ => x

/-- Equality of numbers: whole numbers with whole numbers, others as doubles compare. -/
def Number.same : Number → Number → Bool
  | .integer i, .integer j => i = j
  | .float x _, .float y _ => x == y
  | _, _ => false

/-- The number of a number value, as a double. -/
def float? : Json → Option Float
  | .number n => some n.toFloat
  | _ => none

/-- The number of a value that is written as a whole number and is not negative. -/
def nat? : Json → Option Nat
  | .number (.integer (.ofNat n)) => some n
  | _ => none

/-- The text of a string value. -/
def string? : Json → Option String
  | .string s => some s
  | _ => none

/-- The items of an array value. -/
def array? : Json → Option (List Json)
  | .array items => some items
  | _ => none

/-- The members of an object value. -/
def object? : Json → Option (Keyed Json)
  | .object members => some members
  | _ => none

/-- Whether a value is null. -/
def isNull : Json → Bool
  | .null => true
  | _ => false

mutual
/-- Equality of values. -/
def same : Json → Json → Bool
  | .null, .null => true
  | .bool a, .bool b => a = b
  | .number a, .number b => a.same b
  | .string a, .string b => a = b
  | .array as, .array bs => sameItems as bs
  | .object as, .object bs => sameMembers as bs
  | _, _ => false
/-- Equality of items, one by one. -/
def sameItems : List Json → List Json → Bool
  | [], [] => true
  | a :: as, b :: bs => a.same b && sameItems as bs
  | _, _ => false
/-- Equality of members, one by one. -/
def sameMembers : List (String × Json) → List (String × Json) → Bool
  | [], [] => true
  | (k, a) :: as, (l, b) :: bs => k = l && a.same b && sameMembers as bs
  | _, _ => false
end

end Json

end MapStyling
