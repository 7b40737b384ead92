import MapStyling.PropertyFunction

/-!
# Style properties

The properties that a layer may declare, with their names in a style, how they move between stops and
what they are where nothing is declared.
-/

namespace MapStyling

/-- A property of a layer. -/
inductive Property where
  | lineMiterLimit
  | fillOpacity
  | lineOpacity
  | lineWidth
  | textHaloWidth
  | textMaxWidth
  | textOffset
  | textSize
  | iconOpacity
  | iconRotate
  | iconSize
  | circleRadius
  | fillColor
  | fillOutlineColor
  | iconImage
  | lineCap
  | lineColor
  | lineJoin
  | lineDasharray
  | textAnchor
  | textColor
  | textField
  | textFont
  | textHaloColor
  | circleColor
  | circleStrokeColor
  | fillPattern
  | linePattern
  | textTransform
deriving DecidableEq, Repr

namespace Property

/-- All properties, in their order. -/
def all : List Property :=
  [.lineMiterLimit, .fillOpacity, .lineOpacity, .lineWidth, .textHaloWidth, .textMaxWidth,
    .textOffset, .textSize, .iconOpacity, .iconRotate, .iconSize, .circleRadius, .fillColor,
    .fillOutlineColor, .iconImage, .lineCap, .lineColor, .lineJoin, .lineDasharray, .textAnchor,
    .textColor, .textField, .textFont, .textHaloColor, .circleColor, .circleStrokeColor,
    .fillPattern, .linePattern, .textTransform]

/-- The name of a property in a style. -/
def name : Property → String
  | .lineMiterLimit => "line-miter-limit"
  | .fillOpacity => "fill-opacity"
  | .lineOpacity => "line-opacity"
  | .lineWidth => "line-width"
  | .textHaloWidth => "text-halo-width"
  | .textMaxWidth => "text-max-width"
  | .textOffset => "text-offset"
  | .textSize => "text-size"
  | .iconOpacity => "icon-opacity"
  | .iconRotate => "icon-rotate"
  | .iconSize => "icon-size"
  | .circleRadius => "circle-radius"
  | .fillColor => "fill-color"
  | .fillOutlineColor => "fill-outline-color"
  | .iconImage => "icon-image"
  | .lineCap => "line-cap"
  | .lineColor => "line-color"
  | .lineJoin => "line-join"
  | .lineDasharray => "line-dasharray"
  | .textAnchor => "text-anchor"
  | .textColor => "text-color"
  | .textField => "text-field"
  | .textFont => "text-font"
  | .textHaloColor => "text-halo-color"
  | .circleColor => "circle-color"
  | .circleStrokeColor => "circle-stroke-color"
  | .fillPattern => "fill-pattern"
  | .linePattern => "line-pattern"
  | .textTransform => "text-transform"

/-- The property of a name. -/
def ofName? (name : String) : Option Property :=
  all.find? fun property => property.name = name

/-- How the declarations of a property move between stops; none for a property that is only ever a
literal. -/
def kind? : Property → Option StopKind
  | .lineMiterLimit | .fillOpacity | .lineOpacity | .lineWidth | .textHaloWidth | .textMaxWidth
  | .textOffset | .textSize | .iconOpacity | .iconRotate | .iconSize | .circleRadius =>
    some .interpolated
  | .fillPattern | .linePattern | .textTransform => none
  | _ => some .piecewise

/-- The miter limit of lines that declare none. -/
def defaultMiterLimit : Float := 2

/-- The value of a property that is not declared. -/
def default? : Property → Option Value
  | .fillOpacity | .lineOpacity | .lineWidth | .iconOpacity | .iconSize => some (.number 1)
  | .lineMiterLimit => some (.number defaultMiterLimit)
  | .textHaloWidth | .iconRotate => some (.number 0)
  | .textMaxWidth => some (.number 10)
  | .textSize => some (.number 16)
  | .lineCap => some (.string "butt")
  | .lineJoin => some (.string "miter")
  | .textAnchor => some (.string "center")
  | .textColor | .circleColor | .circleStrokeColor => some (.string "#000000")
  | .textHaloColor => some (.string "rgba(0, 0, 0, 0)")
  | .textOffset => some (.array [.number 0, .number 0])
  | .textFont => some (.array [.string "Open Sans Regular", .string "Arial Unicode MS Regular"])
  | .circleRadius | .fillColor | .fillOutlineColor | .iconImage | .lineColor | .lineDasharray
  | .textField | .fillPattern | .linePattern | .textTransform => none

theorem mem_all (property : Property) : property ∈ all := by
  cases property <;> decide

/-- The name of a property names it alone. -/
theorem ofName?_name (property : Property) : ofName? property.name = some property := by
  cases property <;> decide +kernel

end Property

end MapStyling
