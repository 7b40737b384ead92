import MapStyling.Decimal.Shortest

/-!
# Numbers as text

One writer for the shortest decimal of a double, and the two forms the library writes numbers in:
`Decimal.plain`, always positional, for labels and for logs, and `Decimal.scientific`, with an
exponent for very large and very small numbers, for JSON.
-/

namespace MapStyling.Decimal

/-- How a number is laid out as text. -/
structure Form where
  /-- Which of two equally near shortest decimals is written. -/
  tie : Tie
  /-- Whether a number `0.d₁d₂… * 10 ^ point` is written without an exponent. -/
  positional : Int → Bool
  /-- What follows the digits of a whole number written without an exponent. -/
  whole : String

/-- A row of zeros. -/
def zeros (n : Nat) : String :=
  String.ofList (List.replicate n '0')

/-- A numeral without an exponent. -/
def positional (whole : String) (digits : String) (exponent : Int) : String :=
  let point := digits.length + exponent
  if 0 ≤ exponent then digits ++ zeros exponent.toNat ++ whole
  else if 0 < point then
    String.ofList (digits.toList.take point.toNat) ++ "." ++
      String.ofList (digits.toList.drop point.toNat)
  else "0." ++ zeros (-point).toNat ++ digits

/-- A numeral with one digit before the point and an exponent with its sign. -/
def exponential (digits : String) (exponent : Int) : String :=
  let power := digits.length + exponent - 1
  let mantissa := match digits.toList with
    | first :: second :: rest => String.ofList (first :: '.' :: second :: rest)
    | short => String.ofList short
  mantissa ++ (if power < 0 then "e" else "e+") ++ toString power

/-- The text of a finite number's decimal. -/
def Form.decimal (form : Form) (d : Decimal) : String :=
  let digits := toString d.digits
  let sign := if d.negative then "-" else ""
  if form.positional (digits.length + d.exponent) then
    sign ++ MapStyling.Decimal.positional form.whole digits d.exponent
  else sign ++ exponential digits d.exponent

/-- The text of a number. -/
def Form.write (form : Form) (x : Float) : String :=
  if x.isNaN then "NaN"
  else if x.isInf then (if x < 0 then "-inf" else "inf")
  else form.decimal (shortest form.tie x)

/-- Positional at every size; of two equally near decimals the larger magnitude; whole numbers have
no fraction. -/
def plain : Form where
  tie := .up
  positional _ := true
  whole := ""

/-- Positional from `1e-5` up to below `1e16`; of two equally near decimals the one with an even last
digit; whole numbers end in `.0`. -/
def scientific : Form where
  tie := .even
  positional point := -5 < point ∧ point ≤ 16
  whole := ".0"

end MapStyling.Decimal
