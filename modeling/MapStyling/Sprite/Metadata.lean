import MapStyling.Sprite
import MapStyling.Error
import MapStyling.Json.Parser

/-!
# Sprite metadata

The icons of an atlas as JSON text: an object of entries by name, of which the last of each name
counts. An entry is an object of numbers, or an array of them in the order of the fields. Other
members of an entry are read over; a field that is given twice is refused.
-/

namespace MapStyling.SpriteEntry

open Json (skipBlanks dropWord? takeString? takeNumber? skipValue?)

/-- The names of the fields, in their order. -/
def fieldNames : List String :=
  ["x", "y", "width", "height", "pixelRatio"]

/-- The entry of its fields. -/
def ofFields? (fields : Keyed Float) : Option SpriteEntry := do
  some {
    x := ← fields.get? "x"
    y := ← fields.get? "y"
    width := ← fields.get? "width"
    height := ← fields.get? "height"
    pixelRatio := (fields.get? "pixelRatio").getD 1 }

/-- The numbers of an array that is not empty, with fuel for their count. -/
def takeNumbers? : Nat → List Char → Option (List Float × List Char)
  | 0, _ => none
  | fuel + 1, cs => do
    let (n, cs) ← takeNumber? cs
    match skipBlanks cs with
    | ',' :: cs =>
      let (ns, cs) ← takeNumbers? fuel (skipBlanks cs)
      some (n.toFloat :: ns, cs)
    | ']' :: cs => some ([n.toFloat], cs)
    | _ => none

/-- The members of an object that is not empty, with fuel for their count; `fields` are those read
so far. -/
def takeFields? : Nat → Keyed Float → List Char → Option (Keyed Float × List Char)
  | 0, _, _ => none
  | fuel + 1, fields, cs => do
    let cs ← dropWord? ['"'] cs
    let (key, cs) ← takeString? (cs.length + 1) [] cs
    let cs ← dropWord? [':'] (skipBlanks cs)
    let cs := skipBlanks cs
    let (fields, cs) ←
      if fieldNames.contains key then
        if fields.contains key then none
        else (takeNumber? cs).map fun (n, cs) => (fields.insert key n.toFloat, cs)
      else (skipValue? (2 * cs.length + 2) cs).map fun cs => (fields, cs)
    match skipBlanks cs with
    | ',' :: cs => takeFields? fuel fields (skipBlanks cs)
    | '\x7d' :: cs => some (fields, cs)
    | _ => none

/-- An entry. -/
def take? : List Char → Option (SpriteEntry × List Char)
  | '[' :: cs => do
    let (ns, cs) ← takeNumbers? (cs.length + 1) (skipBlanks cs)
    if ns.length ≤ fieldNames.length then
      (ofFields? (fieldNames.zip ns)).map (·, cs)
    else none
  | '\x7b' :: cs =>
    match skipBlanks cs with
    | '\x7d' :: _ => none
    | cs => do
      let (fields, cs) ← takeFields? (cs.length + 1) [] cs
      (ofFields? fields).map (·, cs)
  | _ => none

/-- The entries by name of an object that is not empty, with fuel for their count. -/
def takeEntries? : Nat → List Char → Option (List (String × SpriteEntry) × List Char)
  | 0, _ => none
  | fuel + 1, cs => do
    let cs ← dropWord? ['"'] cs
    let (name, cs) ← takeString? (cs.length + 1) [] cs
    let cs ← dropWord? [':'] (skipBlanks cs)
    let (entry, cs) ← take? (skipBlanks cs)
    match skipBlanks cs with
    | ',' :: cs =>
      let (entries, cs) ← takeEntries? fuel (skipBlanks cs)
      some ((name, entry) :: entries, cs)
    | '\x7d' :: cs => some ([(name, entry)], cs)
    | _ => none

/-- The entries by name of a text. -/
def parseAll? (text : String) : Option (List (String × SpriteEntry)) :=
  match skipBlanks text.toList with
  | '\x7b' :: cs =>
    let read := match skipBlanks cs with
      | '\x7d' :: cs => some ([], cs)
      | cs => takeEntries? (cs.length + 1) cs
    match read with
    | some (entries, rest) => if (skipBlanks rest).isEmpty then some entries else none
    | none => none
  | _ => none

end MapStyling.SpriteEntry

namespace MapStyling

/-- Reads the atlas of an image from its metadata. -/
def SpriteAtlas.parse (text image : String) : Except StyleError SpriteAtlas :=
  match SpriteEntry.parseAll? text with
  | some entries => .ok ⟨image, Keyed.ofList entries⟩
  | none => .error .malformed

end MapStyling
