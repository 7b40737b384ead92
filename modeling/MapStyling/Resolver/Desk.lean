import MapStyling.Sketch.Drawn
import MapStyling.Color.Table
import MapStyling.Instruction.Pool

/-!
# The drawing desk

A desk draws sketches into a pool of instructions and remembers what it has looked up: colors, fonts,
wrapped labels, icons and circles. It also keeps a record of what it had to ask for.
-/

namespace MapStyling

/-- Something a desk asks for. -/
inductive Query where
  /-- The color of a text. -/
  | color (text : String)
  /-- The width of a text in a font. -/
  | width (font text : String)
deriving DecidableEq, Repr

/-- Whether a query asks for a width. -/
def Query.isWidth : Query → Bool
  | .width .. => true
  | .color _ => false

/-- What a circle is remembered by. -/
structure CircleKey where
  /-- The bits of the radius. -/
  radius : UInt64
  stroke : Option String
  fill : Option String
deriving DecidableEq

/-- A pool of instructions, and everything looked up so far. -/
structure Desk where
  colors : ColorTable
  fonts : FontTable
  wraps : Wrap.Table
  icons : Memo String Placement
  circles : Memo CircleKey Circle
  pool : Pool
  /-- What was asked for, in order. -/
  queries : List Query

namespace Desk

/-- A desk that has looked up nothing. -/
def empty : Desk where
  colors := []
  fonts := .empty
  wraps := []
  icons := []
  circles := []
  pool := .empty
  queries := []

/-- The color of a text. -/
def color (materials : Materials) (desk : Desk) (text : String) : Option Color × Desk :=
  let found := desk.colors.get materials.parse text
  (found.answer, { desk with
    colors := found.memo
    queries := desk.queries ++ if found.computed then [.color text] else [] })

/-- The color of a text, if there is one. -/
def colorOf (materials : Materials) (desk : Desk) : Option String → Option Color × Desk
  | some text => desk.color materials text
  | none => (none, desk)

/-- The color of a text with an opacity. -/
def colorWithOpacity (materials : Materials) (desk : Desk) (text : String) (opacity : Float) :
    Option Color × Desk :=
  let (color, desk) := desk.color materials text
  (color.bind (·.withOpacity? opacity), desk)

/-- The shorthand of a font. -/
def font (desk : Desk) (name : String) (size : Float) : String × Desk :=
  let (shorthand, fonts) := desk.fonts.css name size
  (shorthand, { desk with fonts })

/-- A label with line breaks. -/
def wrap (materials : Materials) (desk : Desk) (text font : String) (ems : Float) : String × Desk :=
  let found := desk.wraps.wrap materials.measure text font ems
  (found.text, { desk with
    wraps := found.table
    queries := desk.queries ++ found.measured.map (.width font) })

/-- The place of an icon. Only icons that are there are remembered. -/
def placement? (materials : Materials) (desk : Desk) (icon : String) : Option Placement × Desk :=
  match desk.icons.get? icon with
  | some place => (some place, desk)
  | none =>
    match materials.placement? icon with
    | some place => (some place, { desk with icons := (icon, place) :: desk.icons })
    | none => (none, desk)

/-- A circle at depth zero. -/
def circle (materials : Materials) (desk : Desk) (radius : Float) (stroke fill : Option String) :
    Circle × Desk :=
  let key : CircleKey := ⟨radius.toBits, stroke, fill⟩
  match desk.circles.get? key with
  | some circle => (circle, desk)
  | none =>
    let (strokeColor, desk) := desk.colorOf materials stroke
    let (fillColor, desk) := desk.colorOf materials fill
    let circle : Circle := ⟨radius, fillColor, strokeColor, 0⟩
    (circle, { desk with circles := (key, circle) :: desk.circles })

/-- Draws a fill. -/
def drawFill (materials : Materials) (depth : Nat) (color : String) (opacity : Float)
    (desk : Desk) : Desk :=
  match desk.colorWithOpacity materials color opacity with
  | (none, desk) => desk
  | (some color, desk) =>
    { desk with pool := desk.pool.fill fun slot => { slot with color := color, depth := depth } }

/-- Draws a stroke. -/
def drawStroke (materials : Materials) (depth : Nat) (color : String) (opacity : Float) (pen : Pen)
    (desk : Desk) : Desk :=
  match desk.colorWithOpacity materials color opacity with
  | (none, desk) => desk
  | (some color, desk) =>
    { desk with pool := desk.pool.stroke fun slot =>
        { slot with
          color := color
          depth := depth
          pen := { slot.pen with
            width := pen.width
            startCap := pen.startCap
            endCap := pen.endCap
            join := pen.join
            miterLimit := pen.miterLimit
            dashes := pen.dashes
            dashOffset := pen.dashOffset } } }

/-- Draws an icon. -/
def drawMarker (materials : Materials) (depth : Nat) (icon : String)
    (size rotation opacity : Float) (desk : Desk) : Desk :=
  match desk.placement? materials icon with
  | (none, desk) => desk
  | (some place, desk) =>
    { desk with pool := desk.pool.push (.marker (place.marker size rotation opacity depth)) }

/-- Draws a circle. -/
def drawCircle (materials : Materials) (depth : Nat) (radius : Float) (stroke fill : Option String)
    (desk : Desk) : Desk :=
  let (circle, desk) := desk.circle materials radius stroke fill
  { desk with pool := desk.pool.push (.circle { circle with depth := depth }) }

/-- Draws a label. -/
def drawLabel (materials : Materials) (depth : Nat) (sketch : LabelSketch) (desk : Desk) : Desk :=
  let (font, desk) := desk.font sketch.font sketch.size
  let (wrapped, desk) := desk.wrap materials sketch.text font sketch.ems
  let (color, desk) := desk.colorOf materials sketch.color
  let (haloColor, desk) := desk.colorOf materials (sketch.halo.map (·.2))
  let halo := sketch.halo.bind fun (width, _) => haloColor.map fun color => Halo.mk width color
  { desk with pool := desk.pool.label fun slot =>
      { slot with
        text := wrapped
        font := font
        offset := sketch.shift wrapped
        color := color
        halo := halo
        depth := depth } }

/-- Draws a sketch. -/
def draw (materials : Materials) (depth : Nat) (desk : Desk) : Sketch → Desk
  | .fill color opacity => desk.drawFill materials depth color opacity
  | .stroke color opacity pen => desk.drawStroke materials depth color opacity pen
  | .marker icon size rotation opacity => desk.drawMarker materials depth icon size rotation opacity
  | .circle radius stroke fill => desk.drawCircle materials depth radius stroke fill
  | .label sketch => desk.drawLabel materials depth sketch

/-- Draws what a layer draws of a feature. -/
def drawLayer (materials : Materials) (kind : GeometryKind) (zoom : Float)
    (attributes : Attributes) (desk : Desk) (layer : CompiledLayer) : Desk :=
  (layer.sketches kind zoom attributes).foldl (draw materials layer.index) desk

end Desk

end MapStyling
