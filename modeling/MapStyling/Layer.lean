import MapStyling.Json

/-!
# Layers

A layer of a style document, as it is declared. In JSON a layer is an object, or an array of its
fields in their order of which trailing ones may be missing.
-/

namespace MapStyling

/-- A layer of a style document. -/
structure Layer where
  id : String
  type : Option String := none
  source : Option String := none
  sourceLayer : Option String := none
  minZoom : Option Float := none
  maxZoom : Option Float := none
  filter : Option Json := none
  /-- The layer that this one takes its structure from. -/
  reference : Option String := none
  layout : Option (Keyed Json) := none
  paint : Option (Keyed Json) := none

namespace Layer

/-- The names of the fields, in their order. -/
def fieldNames : List String :=
  ["id", "type", "source", "source-layer", "minzoom", "maxzoom", "filter", "ref", "layout", "paint"]

/-- The fields of a JSON value, if it has the shape of a layer. -/
def fields? : Json → Option (Keyed Json)
  | .object members => some members
  | .array items => if items.length ≤ fieldNames.length then some (fieldNames.zip items) else none
  | _ => none

/-- An optional field, in which null is the same as nothing; none if it is not what it should be. -/
def optional? {α : Type} (read : Json → Option α) : Option Json → Option (Option α)
  | none | some .null => some none
  | some json => (read json).map some

/-- The layer of its fields. Fields of other names do not matter. -/
def ofFields? (fields : Keyed Json) : Option Layer := do
  let id ← (← fields.get? "id").string?
  let type ← optional? Json.string? (fields.get? "type")
  let source ← optional? Json.string? (fields.get? "source")
  let sourceLayer ← optional? Json.string? (fields.get? "source-layer")
  let minZoom ← optional? Json.float? (fields.get? "minzoom")
  let maxZoom ← optional? Json.float? (fields.get? "maxzoom")
  let filter ← optional? some (fields.get? "filter")
  let reference ← optional? Json.string? (fields.get? "ref")
  let layout ← optional? Json.object? (fields.get? "layout")
  let paint ← optional? Json.object? (fields.get? "paint")
  some { id, type, source, sourceLayer, minZoom, maxZoom, filter, reference, layout, paint }

/-- Reads a layer. -/
def ofJson? (json : Json) : Option Layer :=
  (fields? json).bind ofFields?

/-- Whether the layout leaves the layer visible. -/
def isVisible (layer : Layer) : Bool :=
  ((layer.layout.bind (·.get? "visibility")).bind Json.string?) != some "none"

end Layer

end MapStyling
