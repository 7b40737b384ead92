import MapStyling.Json
import MapStyling.Text.Hex

/-!
# Reading JSON

A strict reader: no comments, no trailing commas, no blanks but the four of the grammar, no leading
zeros, no raw control characters and no lone surrogates in strings. A number beyond the largest
double is refused, and so is a value nested deeper than a given limit. Of a repeated key the last
value counts.

`skipValue?` reads over a value without building it, for members that a reader has no use for. It
checks the grammar alone, so it takes numbers of any size, any depth of nesting and lone surrogates.

Each step returns what it read and the rest of the text; the fuel of the nested readers is the length
of the text, and every step that recurses has consumed a character.
-/

namespace MapStyling.Json

/-- The text after its leading blanks. -/
def skipBlanks (cs : List Char) : List Char :=
  cs.dropWhile fun c => c = ' ' ∨ c = '\n' ∨ c = '\r' ∨ c = '\t'

/-- The text after a given word. -/
def dropWord? : List Char → List Char → Option (List Char)
  | [], cs => some cs
  | w :: ws, c :: cs => if w = c then dropWord? ws cs else none
  | _ :: _, [] => none

/-- Four hexadecimal digits. -/
def takeHex4? : List Char → Option (Nat × List Char)
  | a :: b :: c :: d :: cs => do
    let a ← Text.hexValue? a
    let b ← Text.hexValue? b
    let c ← Text.hexValue? c
    let d ← Text.hexValue? d
    some (((a * 16 + b) * 16 + c) * 16 + d, cs)
  | _ => none

/-- The character of an escape `\u`, after these two characters. A high surrogate has to be followed
by the escape of a low one. -/
def takeCodePoint? (cs : List Char) : Option (Char × List Char) := do
  let (n, cs) ← takeHex4? cs
  if 0xD800 ≤ n ∧ n < 0xDC00 then
    let cs ← dropWord? ['\\', 'u'] cs
    let (m, cs) ← takeHex4? cs
    if 0xDC00 ≤ m ∧ m < 0xE000 then
      some (Char.ofNat (0x10000 + (n - 0xD800) * 0x400 + (m - 0xDC00)), cs)
    else none
  else if 0xDC00 ≤ n ∧ n < 0xE000 then none
  else some (Char.ofNat n, cs)

/-- The character of an escape, after the backslash. -/
def takeEscape? : List Char → Option (Char × List Char)
  | '"' :: cs => some ('"', cs)
  | '\\' :: cs => some ('\\', cs)
  | '/' :: cs => some ('/', cs)
  | 'b' :: cs => some ('\x08', cs)
  | 'f' :: cs => some ('\x0c', cs)
  | 'n' :: cs => some ('\n', cs)
  | 'r' :: cs => some ('\r', cs)
  | 't' :: cs => some ('\t', cs)
  | 'u' :: cs => takeCodePoint? cs
  | _ => none

/-- The characters of a string up to its closing quote; `read` holds those read so far, last
first. -/
def takeString? : Nat → List Char → List Char → Option (String × List Char)
  | 0, _, _ => none
  | _, _, [] => none
  | fuel + 1, read, c :: cs =>
    if c = '"' then some (String.ofList read.reverse, cs)
    else if c = '\\' then
      match takeEscape? cs with
      | some (c, cs) => takeString? fuel (c :: read) cs
      | none => none
    else if c.toNat < 0x20 then none
    else takeString? fuel (c :: read) cs

/-- The digits before the point: no leading zero before another digit. -/
def takeWhole? (cs : List Char) : Option (List Char × List Char) :=
  match Decimal.takeDigits cs with
  | ([], _) => none
  | ('0' :: _ :: _, _) => none
  | taken => some taken

/-- A number after its sign. A whole number is kept whole if it fits 64 bits and is not minus
zero. -/
def takeMagnitude? (negative : Bool) (cs : List Char) : Option (Number × List Char) := do
  let (whole, cs) ← takeWhole? cs
  let (fraction, cs) ← match cs with
    | '.' :: more =>
      match Decimal.takeDigits more with
      | ([], _) => none
      | (ds, cs) => some (some ds, cs)
    | cs => some (none, cs)
  let (power, cs) ← match cs with
    | c :: _ =>
      if c = 'e' ∨ c = 'E' then (Decimal.takeExponent? cs).map fun (p, cs) => (some p, cs)
      else some (none, cs)
    | [] => some (none, cs)
  let digits := Decimal.ofDigits (whole ++ fraction.getD [])
  let small :=
    if negative then 0 < digits ∧ digits ≤ 0x8000000000000000 else digits < 0x10000000000000000
  if fraction.isNone ∧ power.isNone ∧ small then
    some (.integer (if negative then -digits else digits), cs)
  else
    let x := Decimal.toFloat ⟨negative, digits, power.getD 0 - (fraction.getD []).length⟩
    if finite : x.isFinite then some (.float x finite, cs) else none

/-- A number. -/
def takeNumber? : List Char → Option (Number × List Char)
  | '-' :: cs => takeMagnitude? true cs
  | cs => takeMagnitude? false cs

mutual
/-- A value that nests at most `depth` arrays and objects. -/
def takeValue? (fuel depth : Nat) (cs : List Char) : Option (Json × List Char) :=
  match fuel with
  | 0 => none
  | fuel + 1 =>
    match cs with
    | 'n' :: cs => (dropWord? ['u', 'l', 'l'] cs).map (.null, ·)
    | 't' :: cs => (dropWord? ['r', 'u', 'e'] cs).map (.bool true, ·)
    | 'f' :: cs => (dropWord? ['a', 'l', 's', 'e'] cs).map (.bool false, ·)
    | '"' :: cs => (takeString? (cs.length + 1) [] cs).map fun (s, cs) => (.string s, cs)
    | '[' :: cs =>
      match depth with
      | 0 => none
      | depth + 1 =>
        match skipBlanks cs with
        | ']' :: cs => some (.array [], cs)
        | cs => (takeItems? fuel depth cs).map fun (items, cs) => (.array items, cs)
    | '\x7b' :: cs =>
      match depth with
      | 0 => none
      | depth + 1 =>
        match skipBlanks cs with
        | '\x7d' :: cs => some (.object [], cs)
        | cs => (takeMembers? fuel depth cs).map fun (members, cs) =>
          (.object (Keyed.ofList members), cs)
    | cs => (takeNumber? cs).map fun (n, cs) => (.number n, cs)
/-- The items of an array that is not empty, and its closing bracket. -/
def takeItems? (fuel depth : Nat) (cs : List Char) : Option (List Json × List Char) :=
  match fuel with
  | 0 => none
  | fuel + 1 => do
    let (item, cs) ← takeValue? fuel depth cs
    match skipBlanks cs with
    | ',' :: cs =>
      let (items, cs) ← takeItems? fuel depth (skipBlanks cs)
      some (item :: items, cs)
    | ']' :: cs => some ([item], cs)
    | _ => none
/-- The members of an object that is not empty, as written, and its closing brace. -/
def takeMembers? (fuel depth : Nat) (cs : List Char) : Option (List (String × Json) × List Char) :=
  match fuel with
  | 0 => none
  | fuel + 1 => do
    let cs ← dropWord? ['"'] cs
    let (key, cs) ← takeString? (cs.length + 1) [] cs
    let cs ← dropWord? [':'] (skipBlanks cs)
    let (value, cs) ← takeValue? fuel depth (skipBlanks cs)
    match skipBlanks cs with
    | ',' :: cs =>
      let (members, cs) ← takeMembers? fuel depth (skipBlanks cs)
      some ((key, value) :: members, cs)
    | '\x7d' :: cs => some ([(key, value)], cs)
    | _ => none
end

/-- The text after a string, from behind its opening quote. -/
def skipString? : Nat → List Char → Option (List Char)
  | 0, _ => none
  | _, [] => none
  | fuel + 1, c :: cs =>
    if c = '"' then some cs
    else if c = '\\' then
      match cs with
      | 'u' :: cs => (takeHex4? cs).bind fun (_, cs) => skipString? fuel cs
      | cs => (takeEscape? cs).bind fun (_, cs) => skipString? fuel cs
    else if c.toNat < 0x20 then none
    else skipString? fuel cs

/-- The text after a number. -/
def skipNumber? (cs : List Char) : Option (List Char) := do
  let cs := match cs with
    | '-' :: cs => cs
    | cs => cs
  let (_, cs) ← takeWhole? cs
  let cs ← match cs with
    | '.' :: more =>
      match Decimal.takeDigits more with
      | ([], _) => none
      | (_, cs) => some cs
    | cs => some cs
  match cs with
  | c :: _ => if c = 'e' ∨ c = 'E' then (Decimal.takeExponent? cs).map (·.2) else some cs
  | [] => some []

mutual
/-- The text after a value. -/
def skipValue? (fuel : Nat) (cs : List Char) : Option (List Char) :=
  match fuel with
  | 0 => none
  | fuel + 1 =>
    match cs with
    | 'n' :: cs => dropWord? ['u', 'l', 'l'] cs
    | 't' :: cs => dropWord? ['r', 'u', 'e'] cs
    | 'f' :: cs => dropWord? ['a', 'l', 's', 'e'] cs
    | '"' :: cs => skipString? (cs.length + 1) cs
    | '[' :: cs =>
      match skipBlanks cs with
      | ']' :: cs => some cs
      | cs => skipItems? fuel cs
    | '\x7b' :: cs =>
      match skipBlanks cs with
      | '\x7d' :: cs => some cs
      | cs => skipMembers? fuel cs
    | cs => skipNumber? cs
/-- The text after the items of an array that is not empty. -/
def skipItems? (fuel : Nat) (cs : List Char) : Option (List Char) :=
  match fuel with
  | 0 => none
  | fuel + 1 => do
    let cs ← skipValue? fuel cs
    match skipBlanks cs with
    | ',' :: cs => skipItems? fuel (skipBlanks cs)
    | ']' :: cs => some cs
    | _ => none
/-- The text after the members of an object that is not empty. -/
def skipMembers? (fuel : Nat) (cs : List Char) : Option (List Char) :=
  match fuel with
  | 0 => none
  | fuel + 1 => do
    let cs ← dropWord? ['"'] cs
    let cs ← skipString? (cs.length + 1) cs
    let cs ← dropWord? [':'] (skipBlanks cs)
    let cs ← skipValue? fuel (skipBlanks cs)
    match skipBlanks cs with
    | ',' :: cs => skipMembers? fuel (skipBlanks cs)
    | '\x7d' :: cs => some cs
    | _ => none
end

/-- How deep a text may nest arrays and objects. -/
def maxDepth : Nat := 127

/-- Reads a text that is one value, with blanks around it. -/
def parse? (text : String) (depth : Nat := maxDepth) : Option Json := do
  let cs := skipBlanks text.toList
  let (value, rest) ← takeValue? (2 * cs.length + 2) depth cs
  if (skipBlanks rest).isEmpty then some value else none

end MapStyling.Json
