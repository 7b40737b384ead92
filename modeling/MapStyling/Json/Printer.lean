import MapStyling.Json
import MapStyling.Decimal.Text
import MapStyling.Text.Hex

/-!
# JSON as text

The compact form: no blanks, members in the order of the object, and a backslash escape only for the
quote, the backslash and the control characters below the space.
-/

namespace MapStyling.Json

/-- A character inside quotes. -/
def escapeChar (c : Char) : List Char :=
  match c with
  | '"' => ['\\', '"']
  | '\\' => ['\\', '\\']
  | '\n' => ['\\', 'n']
  | '\r' => ['\\', 'r']
  | '\t' => ['\\', 't']
  | '\x08' => ['\\', 'b']
  | '\x0c' => ['\\', 'f']
  | c =>
    if c.toNat < 0x20 then
      ['\\', 'u', '0', '0', Text.hexDigit (c.toNat / 16), Text.hexDigit (c.toNat % 16)]
    else [c]

/-- A text in quotes. -/
def quote (text : String) : String :=
  "\"" ++ String.ofList (text.toList.flatMap escapeChar) ++ "\""

/-- The text of a number: digits alone for a whole number, else the shortest that reads back. -/
def Number.print : Number → String
  | .integer i => toString i
  | .float x _ => Decimal.scientific.write x

mutual
/-- The compact text of a value. -/
def print : Json → String
  | .null => "null"
  | .bool true => "true"
  | .bool false => "false"
  | .number n => n.print
  | .string s => quote s
  | .array items => "[" ++ ",".intercalate (printItems items) ++ "]"
  | .object members => "\x7b" ++ ",".intercalate (printMembers members) ++ "\x7d"
/-- The texts of the items of an array. -/
def printItems : List Json → List String
  | [] => []
  | a :: as => a.print :: printItems as
/-- The texts of the members of an object. -/
def printMembers : List (String × Json) → List String
  | [] => []
  | (k, a) :: as => (quote k ++ ":" ++ a.print) :: printMembers as
end

end MapStyling.Json
