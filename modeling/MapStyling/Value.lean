import MapStyling.Json
import MapStyling.Text.Blank
import MapStyling.Decimal.Text

/-!
# Attribute and style values

Feature attributes and the literals of a style share one type of values. `Value.text` is how a value
reads in a label, `Value.toNumber?` how it counts as a number in a comparison.
-/

namespace MapStyling

/-- A value of an attribute or a literal of a style. -/
inductive Value where
  | null
  | bool (value : Bool)
  | number (value : Float)
  | string (value : String)
  | array (items : List Value)

namespace Value

instance : Inhabited Value := ⟨.null⟩

/-- The number of a number value. -/
def number? : Value → Option Float
  | .number x => some x
  | _ => none

/-- The text of a string value. -/
def string? : Value → Option String
  | .string s => some s
  | _ => none

/-- The items of an array value. -/
def array? : Value → Option (List Value)
  | .array items => some items
  | _ => none

/-- Whether a value is null. -/
def isNull : Value → Bool
  | .null => true
  | _ => false

/-- The number a value counts as: a number as it is, a boolean as one or zero, a text as the number
it writes between blanks. Texts that write no number or NaN, arrays and null count as none. -/
def toNumber? : Value → Option Float
  | .number x => some x
  | .bool b => some (if b then 1 else 0)
  | .string s => (Decimal.parseFloat? (Text.trim s)).filter fun x => !x.isNaN
  | .null | .array _ => none

/-- The text of a number: positional, whole numbers without a fraction, zero without a sign. -/
def numberText (x : Float) : String :=
  if x == 0 then "0" else Decimal.plain.write x

mutual
/-- How a value reads in a label. Null is empty, and the items of an array are divided by commas. -/
def text : Value → String
  | .null => ""
  | .bool b => if b then "true" else "false"
  | .number x => numberText x
  | .string s => s
  | .array items => ",".intercalate (texts items)
/-- The texts of the items of an array. -/
def texts : List Value → List String
  | [] => []
  | v :: vs => v.text :: texts vs
end

mutual
/-- The value that a JSON literal writes. Objects have no counterpart and become null. -/
def ofJson : Json → Value
  | .null | .object _ => .null
  | .bool b => .bool b
  | .number n => .number n.toFloat
  | .string s => .string s
  | .array items => .array (ofItems items)
/-- The values that the items of a JSON array write. -/
def ofItems : List Json → List Value
  | [] => []
  | j :: js => ofJson j :: ofItems js
end

mutual
/-- The JSON literal that writes a value. Numbers that are not finite have no literal and become
null. -/
def toJson : Value → Json
  | .null => .null
  | .bool b => .bool b
  | .number x => if finite : x.isFinite then .number (.float x finite) else .null
  | .string s => .string s
  | .array items => .array (toItems items)
/-- The JSON literals that write the items of an array. -/
def toItems : List Value → List Json
  | [] => []
  | v :: vs => v.toJson :: toItems vs
end

theorem ofItems_eq_map (js : List Json) : ofItems js = js.map ofJson := by
  induction js with
  | nil => rfl
  | cons j js ih => simp [ofItems, ih]

end Value

end MapStyling
