import MapStyling.Layer.Prepared
import MapStyling.Filter
import MapStyling.Zoom
import MapStyling.Font

/-!
# Compiled layers

A compiled layer has its filter read and its declarations turned into property functions. It keeps
its position in the document, which is the depth at which it is drawn.
-/

namespace MapStyling

/-- The property functions of a layer, in the order of the properties. -/
abbrev Paint := List (Property × PropertyFunction)

namespace Paint

/-- The function of a property, if it is declared or has a default. -/
def get? (paint : Paint) (property : Property) : Option PropertyFunction :=
  (paint.find? fun entry => entry.1 = property).map (·.2)

/-- Whether a property is declared or has a default. -/
def contains (paint : Paint) (property : Property) : Bool :=
  (paint.get? property).isSome

/-- Compiles the declaration of a property. Some properties are only ever literals. -/
def compileProperty (property : Property) (declaration : Json) : PropertyFunction :=
  match property.kind? with
  | some kind => PropertyFunction.compile declaration kind property.default?
  | none => .constant (Value.ofJson declaration)

/-- Compiles declarations. What is not the name of a property does not matter. -/
def ofDeclarations (declarations : Keyed Json) : Paint :=
  Property.all.filterMap fun property =>
    (declarations.get? property.name).map fun declaration =>
      (property, compileProperty property declaration)

/-- Chooses the fonts of labels from their stacks. A layer without labels is left alone. -/
def chooseFonts (fonts : Option (List String)) (paint : Paint) : Paint :=
  if paint.contains .textField then
    paint.map fun (property, function) =>
      if property = .textFont then (property, function.mapOutputs (chooseFont fonts))
      else (property, function)
  else paint

end Paint

/-- A compiled layer. -/
structure CompiledLayer where
  id : String
  /-- The position in the document. -/
  index : Nat
  sourceLayer : Option String
  zoom : ZoomRange
  filter : Option Filter
  paint : Paint

/-- Compiles a prepared layer. -/
def Layer.compile (layer : Layer) (index : Nat) (fonts : Option (List String)) : CompiledLayer where
  id := layer.id
  index := index
  sourceLayer := layer.sourceLayer
  zoom := ⟨layer.minZoom, layer.maxZoom⟩
  filter := layer.filter.map Filter.ofJson
  paint := Paint.chooseFonts fonts (Paint.ofDeclarations (layer.paint.getD []))

end MapStyling
