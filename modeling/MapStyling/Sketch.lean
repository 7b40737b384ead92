import MapStyling.Sheet
import MapStyling.Text.Case
import MapStyling.Instruction

/-!
# Sketches

A sketch is what a layer draws of a feature, before colors, icons and widths of texts are looked up.
`CompiledLayer.sketches` reads off the layer's property functions which sketches there are.
-/

namespace MapStyling

/-- The property functions of a layer at a zoom level and for a feature's attributes. -/
structure PaintView where
  paint : Paint
  zoom : Float
  attributes : Attributes

namespace PaintView

/-- Whether a property is declared or has a default. -/
def declares (view : PaintView) (property : Property) : Bool :=
  view.paint.contains property

/-- The value of a property. -/
def value? (view : PaintView) (property : Property) : Option Value :=
  (view.paint.get? property).map fun function => function.evaluate view.zoom view.attributes

/-- The number of a property, if its value is one. -/
def number? (view : PaintView) (property : Property) : Option Float :=
  (view.value? property).bind Value.number?

/-- The text of a property, if its value is one. -/
def text? (view : PaintView) (property : Property) : Option String :=
  (view.value? property).bind Value.string?

end PaintView

/-- Where a label stands on its point. -/
inductive Anchor where
  | top
  | middle
  | bottom
deriving DecidableEq, Repr

/-- A label before its font is written out and its lines are broken. -/
structure LabelSketch where
  text : String
  /-- The name of the font. -/
  font : String
  size : Float
  /-- The limit of its lines in ems. -/
  ems : Float
  /-- The offset in units of the size. -/
  offset : Point
  anchor : Anchor
  color : Option String
  /-- The width and the color of the halo. -/
  halo : Option (Float × String)

/-- What a layer draws, before anything is looked up. Colors are texts. -/
inductive Sketch where
  | fill (color : String) (opacity : Float)
  | stroke (color : String) (opacity : Float) (pen : Pen)
  /-- An icon with its size, its rotation in degrees and its opacity. -/
  | marker (icon : String) (size rotation opacity : Float)
  | circle (radius : Float) (stroke fill : Option String)
  | label (label : LabelSketch)

/-- The cap of a name. -/
def LineCap.ofName : Option String → LineCap
  | some "round" => .round
  | some "square" => .square
  | _ => .butt

/-- The join of a name. -/
def LineJoin.ofName : Option String → LineJoin
  | some "round" => .round
  | some "bevel" => .bevel
  | _ => .miter

/-- The anchor of a name, of which the beginning matters. -/
def Anchor.ofName : Option String → Anchor
  | some name =>
    if "top".toList.isPrefixOf name.toList then .top
    else if "bottom".toList.isPrefixOf name.toList then .bottom
    else .middle
  | none => .middle

/-- The pen of outlines. -/
def outlinePen : Pen where
  width := 1
  startCap := .butt
  endCap := .butt
  join := .miter
  miterLimit := Property.defaultMiterLimit
  dashes := []
  dashOffset := 0

/-- The text of a value: a template with the attributes in place, or the value as it reads. -/
def renderText (value : Value) (attributes : Attributes) : String :=
  match value with
  | .string template => Template.substitute template attributes
  | other => other.text

/-- The font that a value names: the value itself or the first name of a stack. -/
def fontName? : Value → Option String
  | .string name => some name
  | .array stack => (textsOf stack).head?
  | _ => none

/-- The two numbers at the front of an offset; no offset if they are not there. -/
def offsetOf : Option Value → Point
  | some (.array (.number x :: .number y :: _)) => ⟨x, y⟩
  | _ => ⟨0, 0⟩

/-- The numbers among some values. -/
def numbersOf (values : List Value) : List Float :=
  values.filterMap Value.number?

namespace PaintView

/-- The sketches of an area: its fill and its outline, with one opacity. -/
def areaSketches (view : PaintView) : List Sketch :=
  if view.declares .fillPattern || !view.declares .fillColor then []
  else
    let opacity := (view.number? .fillOpacity).getD 1
    (((view.text? .fillColor).map fun color => Sketch.fill color opacity).toList) ++
      ((view.text? .fillOutlineColor).map fun color => .stroke color opacity outlinePen).toList

/-- The pen of a line of some width. Dashes are in units of the width. -/
def pen (view : PaintView) (width : Float) : Pen :=
  let cap := LineCap.ofName (view.text? .lineCap)
  { width := width
    startCap := cap
    endCap := cap
    join := LineJoin.ofName (view.text? .lineJoin)
    miterLimit := (view.number? .lineMiterLimit).getD Property.defaultMiterLimit
    dashes :=
      (numbersOf (((view.value? .lineDasharray).bind Value.array?).getD [])).map (· * width)
    dashOffset := 0 }

/-- The sketch of a line, if it has a width. -/
def lineSketches (view : PaintView) : List Sketch :=
  if view.declares .linePattern then []
  else
    let opacity := (view.number? .lineOpacity).getD 1
    let width := (view.number? .lineWidth).getD 1
    if 0 < width then
      ((view.text? .lineColor).map fun color => Sketch.stroke color opacity (view.pen width)).toList
    else []

/-- The sketch of an icon. -/
def markerSketches (view : PaintView) : List Sketch :=
  ((view.value? .iconImage).map fun image =>
    Sketch.marker (renderText image view.attributes) ((view.number? .iconSize).getD 1)
      ((view.number? .iconRotate).getD 0) ((view.number? .iconOpacity).getD 1)).toList

/-- The sketch of a circle. -/
def circleSketches (view : PaintView) : List Sketch :=
  ((view.number? .circleRadius).map fun radius =>
    Sketch.circle radius (view.text? .circleStrokeColor) (view.text? .circleColor)).toList

/-- The sketch of a label of a text in a font. -/
def label (view : PaintView) (text font : String) : LabelSketch :=
  let haloWidth := (view.number? .textHaloWidth).getD 0
  { text := text
    font := font
    size := (view.number? .textSize).getD 16
    ems := (view.number? .textMaxWidth).getD 10
    offset := offsetOf (view.value? .textOffset)
    anchor := Anchor.ofName (view.text? .textAnchor)
    color := view.text? .textColor
    halo := if 0 < haloWidth then (view.text? .textHaloColor).map (haloWidth, ·) else none }

/-- The text of a label, if there is any. -/
def labelText? (view : PaintView) : Option String :=
  match view.value? .textField with
  | none => none
  | some field =>
    let text := renderText field view.attributes
    if text.isEmpty then none else some (Text.transform (view.text? .textTransform) text)

/-- The sketch of a label, if it has a text and a font. -/
def labelSketches (view : PaintView) : List Sketch :=
  match view.labelText?, (view.value? .textFont).bind fontName? with
  | some text, some font => [.label (view.label text font)]
  | _, _ => []

/-- The sketches of a feature by its kind of geometry: areas have a fill and lines, points have an
icon and a circle, and both have a label. -/
def sketches (view : PaintView) : GeometryKind → List Sketch
  | .polygon => view.areaSketches ++ view.lineSketches ++ view.labelSketches
  | .lineString => view.lineSketches
  | .point => view.markerSketches ++ view.circleSketches ++ view.labelSketches

end PaintView

/-- What a layer draws of a feature. -/
def CompiledLayer.sketches (layer : CompiledLayer) (kind : GeometryKind) (zoom : Float)
    (attributes : Attributes) : List Sketch :=
  PaintView.sketches ⟨layer.paint, zoom, attributes⟩ kind

/-- Whether a layer draws a feature at a zoom level at all. -/
def CompiledLayer.applies (layer : CompiledLayer) (zoom : Float) (attributes : Attributes) : Bool :=
  layer.zoom.contains zoom && layer.filter.all (·.holds attributes)

end MapStyling
