import MapStyling.Layer.Compiled
import MapStyling.Template
import MapStyling.Event

/-!
# Style sheets

A style sheet is what is compiled from a document: the layers that are wanted and visible, and the
names of the attributes whose values can change what is drawn.
-/

namespace MapStyling

/-- A compiled document. -/
structure Sheet where
  /-- The layers that are drawn, in the order of the document. -/
  layers : List CompiledLayer
  /-- The names of the attributes that matter, ascending. -/
  relevant : List String

/-- The layer with its structure, if that is wanted and visible. -/
def Document.selected? (document : Document) (selection : LayerSelection) (layer : Layer) :
    Option Layer :=
  (layer.inherit? document).filter fun resolved =>
    selection.contains resolved && resolved.isVisible

/-- The prepared layers that are drawn, with their positions in the document. -/
def Document.prepared (document : Document) (selection : LayerSelection) : List (Layer × Nat) :=
  document.layers.zipIdx.filterMap fun (layer, index) =>
    (document.selected? selection layer).map fun resolved => (resolved.normalize, index)

/-- The names in the templates of declarations. -/
def templateNames (declarations : Option (Keyed Json)) : List String :=
  Template.keysInMembers (declarations.getD [])

/-- The names of the attributes that a prepared layer reads: in its filter, in the templates of its
declarations and in its property functions. -/
def Layer.names (layer : Layer) (compiled : CompiledLayer) : List String :=
  (compiled.filter.map Filter.keys).getD [] ++ templateNames layer.layout ++
    templateNames layer.paint ++ compiled.paint.filterMap fun entry => entry.2.attribute?

namespace Sheet

/-- Compiles the wanted layers of a document. The kind of geometry and the source-layer always
matter. -/
def compile (document : Document) (selection : LayerSelection) (fonts : Option (List String)) :
    Sheet :=
  let prepared := document.prepared selection
  { layers := prepared.map fun (layer, index) => layer.compile index fonts
    relevant := Names.ofList
      (geometryAttribute :: sourceLayerAttribute ::
        prepared.flatMap fun (layer, index) => layer.names (layer.compile index fonts)) }

/-- What is reported of one layer of a document. -/
def layerEvents (document : Document) (selection : LayerSelection) (layer : Layer) : List Event :=
  match layer.inherit? document with
  | none => [.danglingReference layer.id (layer.reference.getD "")]
  | some _ =>
    match document.selected? selection layer with
    | none => []
    | some resolved =>
      match resolved.filter with
      | none => []
      | some filter => (Filter.ofJson filter).unknowns.map (.unknownOperator layer.id ·)

/-- What is reported while a document is compiled. -/
def compileEvents (document : Document) (selection : LayerSelection)
    (fonts : Option (List String)) : List Event :=
  let sheet := compile document selection fonts
  document.layers.flatMap (layerEvents document selection) ++
    [.compiled sheet.layers.length document.layers.length sheet.relevant.length]

end Sheet

end MapStyling
