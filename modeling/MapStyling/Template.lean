import MapStyling.Feature
import MapStyling.Names

/-!
# Templates

A template is a text with names in braces, which stand for the values of a feature's attributes. A
name reaches from the first opening brace to the first closing brace after it. An opening brace
without a closing one is kept as it is, and inserted texts are not looked at again.
-/

namespace MapStyling.Template

/-- A template taken apart: texts, each with the name that follows it, and the text behind the last
name. -/
structure Pieces where
  parts : List (List Char × List Char)
  tail : List Char

/-- The pieces with one more character in front. -/
def Pieces.prepend (c : Char) : Pieces → Pieces
  | ⟨[], tail⟩ => ⟨[], c :: tail⟩
  | ⟨(before, key) :: parts, tail⟩ => ⟨(c :: before, key) :: parts, tail⟩

mutual
/-- The pieces of a template from a place outside braces. -/
def outside : List Char → Pieces
  | [] => ⟨[], []⟩
  | c :: cs =>
    if c = '\x7b' then
      match inside cs with
      | some (key, rest) => ⟨([], key) :: rest.parts, rest.tail⟩
      | none => ⟨[], c :: cs⟩
    else (outside cs).prepend c
/-- The rest of a name and the pieces behind it, from a place inside braces; none if no brace closes
it. -/
def inside : List Char → Option (List Char × Pieces)
  | [] => none
  | c :: cs =>
    if c = '\x7d' then some ([], outside cs)
    else (inside cs).map fun (key, rest) => (c :: key, rest)
end

/-- The pieces of a template. -/
def pieces (template : String) : Pieces :=
  outside template.toList

/-- The names in a template, in their order. -/
def keys (template : String) : List String :=
  (pieces template).parts.map fun part => String.ofList part.2

/-- How an attribute reads in a template; nothing if it is missing. -/
def display (attributes : Attributes) (key : String) : String :=
  match attributes key with
  | some value => value.text
  | none => ""

/-- The template with each name replaced by the value of that attribute. -/
def substitute (template : String) (attributes : Attributes) : String :=
  let pieces := pieces template
  String.join (pieces.parts.map fun (before, key) =>
    String.ofList before ++ display attributes (String.ofList key)) ++ String.ofList pieces.tail

mutual
/-- The names in the texts at any depth of a JSON value, but for the empty name. -/
def keysIn : Json → List String
  | .string text => (keys text).filter (· ≠ "")
  | .array items => keysInItems items
  | .object members => keysInMembers members
  | .null | .bool _ | .number _ => []
/-- The names in the items of an array. -/
def keysInItems : List Json → List String
  | [] => []
  | json :: rest => keysIn json ++ keysInItems rest
/-- The names in the values of an object. -/
def keysInMembers : List (String × Json) → List String
  | [] => []
  | (_, json) :: rest => keysIn json ++ keysInMembers rest
end

end MapStyling.Template
