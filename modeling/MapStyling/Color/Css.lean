import MapStyling.Color
import MapStyling.Color.Named
import MapStyling.Decimal.Read
import MapStyling.Text.Blank
import MapStyling.Text.Hex

/-!
# Colors in CSS

`Color.parseCss?` reads colors as style sheets write them: with three, four, six or eight hexadecimal
digits, by name, and in the functions `rgb` and `hsl`. Names are read in either case. The functions
take their components with commas between all of them, or with blanks and a slash before the alpha.
Blanks are free but for one place: the comma after a hue follows it at once.
-/

namespace MapStyling.Color

/-- The bytes that hexadecimal digits write, each with one digit or with two. -/
def hexBytes? : List Nat → Option (List Nat)
  | [r, g, b] => some [17 * r, 17 * g, 17 * b, 255]
  | [r, g, b, a] => some [17 * r, 17 * g, 17 * b, 17 * a]
  | [r, r', g, g', b, b'] => some [16 * r + r', 16 * g + g', 16 * b + b', 255]
  | [r, r', g, g', b, b', a, a'] => some [16 * r + r', 16 * g + g', 16 * b + b', 16 * a + a']
  | _ => none

/-- The color of hexadecimal digits. -/
def ofHex? (digits : List Char) : Option Color := do
  let values ← digits.mapM Text.hexValue?
  match ← hexBytes? values with
  | [r, g, b, a] => some (ofBytes r.toUInt8 g.toUInt8 b.toUInt8 a.toUInt8)
  | _ => none

/-- The color of a name in lower case. -/
def ofName? (name : String) : Option Color :=
  if name = "transparent" then some transparent
  else
    match named.find? fun entry => entry.1 = name with
    | some (_, rgb) =>
      some (ofBytes (rgb / 0x10000).toUInt8 (rgb / 0x100 % 0x100).toUInt8 (rgb % 0x100).toUInt8 255)
    | none => none

/-- Whether a character may stand in a name. -/
def isNameChar (c : Char) : Bool :=
  ('a' ≤ c ∧ c ≤ 'z') ∨ ('A' ≤ c ∧ c ≤ 'Z') ∨ c = '_' ∨ c = '-'

/-- The rest of a name, in which digits may stand too. -/
def takeNameRest : List Char → List Char × List Char
  | cs => (cs.takeWhile fun c => isNameChar c || Decimal.isDigit c,
      cs.dropWhile fun c => isNameChar c || Decimal.isDigit c)

/-- A name at the front of a text. It starts with a letter or an underscore, or with a hyphen and one
of these. -/
def takeName? : List Char → Option (List Char × List Char)
  | '-' :: c :: cs =>
    if isNameChar c ∧ c ≠ '-' then
      let (name, rest) := takeNameRest cs
      some ('-' :: c :: name, rest)
    else none
  | c :: cs =>
    if isNameChar c ∧ c ≠ '-' then
      let (name, rest) := takeNameRest cs
      some (c :: name, rest)
    else none
  | [] => none

/-- The name in lower case. -/
def lowerName (name : List Char) : String :=
  String.ofList (name.map Char.toLower)

/-- The text after its leading blanks. -/
def skipBlanks (cs : List Char) : List Char :=
  cs.dropWhile fun c => c = ' ' ∨ c = '\t' ∨ c = '\r' ∨ c = '\n'

/-- The text after blanks and a given character. -/
def dropChar? (c : Char) (cs : List Char) : Option (List Char) :=
  match skipBlanks cs with
  | d :: rest => if c = d then some rest else none
  | [] => none

/-- A number at the front of a text. A point or an exponent counts only if a digit follows. -/
def takeNumber? (cs : List Char) : Option (Float × List Char) :=
  let (negative, unsigned) := Decimal.takeSign cs
  let (whole, afterWhole) := Decimal.takeDigits unsigned
  let (fraction, afterFraction) := match afterWhole with
    | '.' :: more =>
      match Decimal.takeDigits more with
      | ([], _) => ([], afterWhole)
      | taken => taken
    | _ => ([], afterWhole)
  if whole.isEmpty ∧ fraction.isEmpty then none
  else
    let (power, rest) := (Decimal.takeExponent? afterFraction).getD (0, afterFraction)
    some (Decimal.toFloat ⟨negative, Decimal.ofDigits (whole ++ fraction), power - fraction.length⟩,
      rest)

/-- A component of a color function. -/
inductive Component where
  | number (value : Float)
  | percentage (value : Float)
  | dimension (value : Float) (unit : String)

/-- A component after blanks. -/
def takeComponent? (cs : List Char) : Option (Component × List Char) := do
  let (value, rest) ← takeNumber? (skipBlanks cs)
  match rest with
  | '%' :: rest => some (.percentage value, rest)
  | rest =>
    match takeName? rest with
    | some (unit, rest) => some (.dimension value (lowerName unit), rest)
    | none => some (.number value, rest)

/-- A part of a color: a number times one factor, or a percentage times another. -/
def Component.scaled? (number percentage : Float) : Component → Option Float
  | .number x => some (x * number)
  | .percentage x => some (x * percentage)
  | .dimension _ _ => none

/-- A hue in degrees. -/
def Component.angle? : Component → Option Float
  | .number x => some x
  | .dimension x "deg" => some x
  | .dimension x "grad" => some (x * 0.9)
  | .dimension x "turn" => some (x * 360)
  | _ => none

/-- The value within zero and one. -/
def clampUnit (x : Float) : Float :=
  if x < 0 then 0 else if 1 < x then 1 else x

/-- Where the comma after the first component of a color function may stand. -/
inductive FirstComma where
  /-- After blanks. -/
  | spaced
  /-- Right behind the component. -/
  | attached
deriving DecidableEq, Repr

/-- The text after the comma behind the first component, if there is one. -/
def FirstComma.drop? : FirstComma → List Char → Option (List Char)
  | .spaced, cs => dropChar? ',' cs
  | .attached, ',' :: cs => some cs
  | .attached, _ => none

/-- The components of a color function from behind its opening parenthesis: three and an alpha. The
text has to end with the closing parenthesis. -/
def components? (comma : FirstComma) (cs : List Char) :
    Option (Component × Component × Component × Component) := do
  let (first, cs) ← takeComponent? cs
  let (commas, cs) := match comma.drop? cs with
    | some cs => (true, cs)
    | none => (false, cs)
  let (second, cs) ← takeComponent? cs
  let cs ← if commas then dropChar? ',' cs else some cs
  let (third, cs) ← takeComponent? cs
  let (alpha, cs) ← match dropChar? (if commas then ',' else '/') cs with
    | some cs => takeComponent? cs
    | none => some (.number 1, cs)
  match dropChar? ')' cs with
  | some [] => some (first, second, third, alpha)
  | _ => none

/-- The alpha part of a component. -/
def Component.alpha? (component : Component) : Option Float32 :=
  (component.scaled? 1 0.01).map fun x => single (clampUnit x)

/-- The color of the function `rgb`. -/
def ofRgb? (red green blue alpha : Component) : Option Color := do
  let part? (component : Component) : Option Float32 :=
    (component.scaled? (1 / 255) 0.01).map fun x => single (clampUnit x)
  some ⟨← part? red, ← part? green, ← part? blue, ← alpha.alpha?⟩

/-- The smaller of two numbers; of a number and none the number. -/
def minNumber (x y : Float32) : Float32 :=
  if x < y then x else if y ≤ x then y else if x.isNaN then y else x

/-- A part of the color with a hue in degrees, a saturation and a lightness in percent; `n` selects
the part. -/
def hslPart (hue saturation lightness n : Float32) : Float32 :=
  let light := lightness * 0.01
  let a := saturation * 0.01 * minNumber light (1 - light)
  let x := n + hue * (1 / 30)
  let k := x - 12 * (x * (1 / 12)).floor
  let d := minNumber (k - 3) (9 - k)
  let d := if d < -1 then -1 else if 1 < d then 1 else d
  light - a * d

/-- The color of the function `hsl`. A saturation that is not above zero, be it negative zero, counts
as zero. -/
def ofHsl? (hue saturation lightness alpha : Component) : Option Color := do
  let h := single (← hue.angle?)
  let s ← saturation.scaled? 1 1
  let s := single (if 0 < s then s else 0)
  let l := single (← lightness.scaled? 1 1)
  some ⟨hslPart h s l 0, hslPart h s l 8, hslPart h s l 4, ← alpha.alpha?⟩

/-- Reads a color with blanks around it. -/
def parseCss? : ColorParser := fun text =>
  match Text.trimChars text.toList with
  | '#' :: digits => ofHex? digits
  | cs =>
    match takeName? cs with
    | none => none
    | some (name, []) => ofName? (lowerName name)
    | some (name, '(' :: rest) =>
      match lowerName name with
      | "rgb" | "rgba" => do
        let (red, green, blue, alpha) ← components? .spaced rest
        ofRgb? red green blue alpha
      | "hsl" | "hsla" => do
        let (hue, saturation, lightness, alpha) ← components? .attached rest
        ofHsl? hue saturation lightness alpha
      | _ => none
    | _ => none

end MapStyling.Color
