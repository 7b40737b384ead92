import MapStyling.Document
import MapStyling.Property

/-!
# Prepared layers

Before a layer is compiled, it takes the structure of the layer it refers to (`Layer.inherit?`), and
its declarations are gathered into its paint (`Layer.normalize`): those of the layout and the
defaults of the properties come where the paint has none.
-/

namespace MapStyling.Layer

/-- A layer with the structure of another. The id, the reference and the paint stay its own. -/
def withStructureOf (layer target : Layer) : Layer :=
  { layer with
    type := target.type
    source := target.source
    sourceLayer := target.sourceLayer
    minZoom := target.minZoom
    maxZoom := target.maxZoom
    filter := target.filter
    layout := target.layout }

/-- The layer with the structure of the layer it refers to, if it refers to one; none if there is no
such layer. -/
def inherit? (document : Document) (layer : Layer) : Option Layer :=
  match layer.reference with
  | none => some layer
  | some id => (document.layer? id).map layer.withStructureOf

/-- Adds a declaration of the layout, unless there is one already that is not null. -/
def mergeEntry (paint : Keyed Json) (entry : String × Json) : Keyed Json :=
  if (paint.get? entry.1).any fun json => !json.isNull then paint
  else paint.insert entry.1 entry.2

/-- Adds the default of a property, unless there is an entry for it. -/
def fillDefault (paint : Keyed Json) (property : Property) : Keyed Json :=
  if paint.contains property.name then paint
  else
    match property.default? with
    | some value => paint.insert property.name value.toJson
    | none => paint

/-- The declarations of a layer. A layer that refers to another does not take its layout over. -/
def declarations (layer : Layer) : Keyed Json :=
  let own := layer.paint.getD []
  let layout := if layer.reference.isNone then layer.layout.getD [] else []
  Property.all.foldl fillDefault (layout.foldl mergeEntry own)

/-- The layer with all its declarations in its paint. -/
def normalize (layer : Layer) : Layer :=
  { layer with paint := some layer.declarations }

end MapStyling.Layer
