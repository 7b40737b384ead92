import MapStyling.Sketch
import MapStyling.Text.Wrap

/-!
# Drawn sketches

A sketch becomes an instruction when its colors, its icon, its font and its lines are looked up. It
may come to nothing: a color that is no color or has no alpha left, or an icon that is not there.
-/

namespace MapStyling

/-- What sketches are drawn with. -/
structure Materials where
  parse : ColorParser
  measure : Measurer
  sprite : Option SpriteAtlas

/-- The place of an icon. -/
structure Placement where
  image : String
  icon : String
  entry : SpriteEntry

/-- The place of an icon by its name. -/
def Materials.placement? (materials : Materials) (icon : String) : Option Placement := do
  let atlas ← materials.sprite
  let entry ← atlas.get? icon
  some ⟨atlas.image, icon, entry⟩

/-- The color of a text, with an opacity. -/
def Materials.color? (materials : Materials) (text : String) (opacity : Float) : Option Color :=
  (materials.parse text).bind (·.withOpacity? opacity)

/-- Half a turn in radians. -/
def pi : Float := 3.14159265358979323846

/-- The icon of a place. -/
def Placement.marker (place : Placement) (size rotation opacity : Float) (depth : Nat) : Marker where
  image := place.image
  icon := place.icon
  origin := place.entry.origin
  size := place.entry.size
  scale := size / place.entry.pixelRatio
  rotation := rotation * pi / 180
  opacity := opacity
  depth := depth

/-- The offset of a label in pixels. Each line after the first moves it down by its size, and so does
half its size an anchor at the top; an anchor at the bottom moves it up. -/
def LabelSketch.shift (sketch : LabelSketch) (wrapped : String) : Point :=
  let breaks := Float.ofNat (wrapped.toList.count '\n')
  let y := sketch.offset.y * sketch.size + breaks * sketch.size
  ⟨sketch.offset.x * sketch.size,
    match sketch.anchor with
    | .top => y + 0.5 * sketch.size
    | .bottom => y - 0.5 * sketch.size
    | .middle => y⟩

/-- The instruction of a label. -/
def LabelSketch.draw (materials : Materials) (sketch : LabelSketch) (depth : Nat) : Label :=
  let font := fontCss sketch.font sketch.size
  let wrapped := Wrap.wrap materials.measure sketch.text font sketch.ems
  { text := wrapped
    font := font
    offset := sketch.shift wrapped
    color := sketch.color.bind materials.parse
    halo := sketch.halo.bind fun (width, color) =>
      (materials.parse color).map fun color => ⟨width, color⟩
    depth := depth }

/-- The instruction of a sketch, if it comes to one. -/
def Sketch.draw? (materials : Materials) (depth : Nat) : Sketch → Option Instruction
  | .fill color opacity => (materials.color? color opacity).map fun color => .fill ⟨color, depth⟩
  | .stroke color opacity pen =>
    (materials.color? color opacity).map fun color => .stroke ⟨color, pen, depth⟩
  | .marker icon size rotation opacity =>
    (materials.placement? icon).map fun place => .marker (place.marker size rotation opacity depth)
  | .circle radius rim inside =>
    some (.circle ⟨radius, inside.bind materials.parse, rim.bind materials.parse, depth⟩)
  | .label sketch => some (.label (sketch.draw materials depth))

/-- What a layer draws of a feature, looked up anew. -/
def CompiledLayer.draw (layer : CompiledLayer) (materials : Materials) (kind : GeometryKind)
    (zoom : Float) (attributes : Attributes) : List Instruction :=
  (layer.sketches kind zoom attributes).filterMap (Sketch.draw? materials layer.index)

end MapStyling
