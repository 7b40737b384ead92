import MapStyling.Decimal.Shortest

/-!
# Reading numbers

Decimals become the nearest double (`Decimal.toFloat`). `Decimal.parseFloat?` reads the free-standing
numerals that attribute texts hold: a sign, digits with an optional point among or beside them, an
exponent, or the names of the values that are not finite.
-/

namespace MapStyling.Decimal

/-- The value of an ASCII digit. -/
def digit? (c : Char) : Option Nat :=
  if '0' ≤ c ∧ c ≤ '9' then some (c.toNat - '0'.toNat) else none

/-- Whether a character is an ASCII digit. -/
def isDigit (c : Char) : Bool :=
  (digit? c).isSome

/-- The number that a row of digits writes. -/
def ofDigits (cs : List Char) : Nat :=
  cs.foldl (fun n c => 10 * n + (digit? c).getD 0) 0

/-- The digits at the front of a text, and what follows them. -/
def takeDigits (cs : List Char) : List Char × List Char :=
  (cs.takeWhile isDigit, cs.dropWhile isDigit)

/-- The double nearest to a decimal, infinite beyond the largest double. Magnitudes far outside the
range of doubles are settled without computing their power of ten. -/
def toFloat (d : Decimal) : Float :=
  let top := (toString d.digits).length + d.exponent
  let magnitude : Float :=
    if d.digits = 0 ∨ top < -330 then 0
    else if 310 < top then 1 / 0
    else Float.ofScientific d.digits (d.exponent < 0) d.exponent.natAbs
  if d.negative then -magnitude else magnitude

/-- The double nearest to an integer. -/
def floatOfInt (i : Int) : Float :=
  if i < 0 then -(Float.ofScientific i.natAbs false 0) else Float.ofScientific i.natAbs false 0

/-- A sign at the front of a text: whether it is a minus, and what follows. -/
def takeSign : List Char → Bool × List Char
  | '+' :: cs => (false, cs)
  | '-' :: cs => (true, cs)
  | cs => (false, cs)

/-- An exponent at the front of a text: the letter `e`, a sign if any, and at least one digit. -/
def takeExponent? : List Char → Option (Int × List Char)
  | c :: cs =>
    if c = 'e' ∨ c = 'E' then
      let (minus, cs) := takeSign cs
      match takeDigits cs with
      | ([], _) => none
      | (ds, rest) => some (if minus then -(ofDigits ds : Int) else ofDigits ds, rest)
    else none
  | [] => none

/-- Reads the text of a number after its sign. -/
def parseMagnitude? (negative : Bool) (cs : List Char) : Option Float :=
  let (whole, rest) := takeDigits cs
  let (fraction, rest) := match rest with
    | '.' :: more => takeDigits more
    | other => ([], other)
  if whole.isEmpty ∧ fraction.isEmpty then none
  else
    let number (power : Int) : Float :=
      toFloat ⟨negative, ofDigits (whole ++ fraction), power - fraction.length⟩
    match rest with
    | [] => some (number 0)
    | other =>
      match takeExponent? other with
      | some (power, []) => some (number power)
      | _ => none

/-- Reads a free-standing number; the whole text has to be one. -/
def parseFloat? (text : String) : Option Float :=
  let (negative, cs) := takeSign text.toList
  match String.ofList (cs.map Char.toLower) with
  | "inf" | "infinity" => some (if negative then -(1 / 0) else 1 / 0)
  | "nan" => some (0 / 0)
  | _ => parseMagnitude? negative cs

end MapStyling.Decimal
