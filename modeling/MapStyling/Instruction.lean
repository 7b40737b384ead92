import MapStyling.Color
import MapStyling.Sprite

/-!
# Instructions

What is drawn of a feature, fully resolved. Each instruction has the depth of the layer it comes
from, which is the position of that layer in the document.
-/

namespace MapStyling

/-- How the ends of a line are drawn. -/
inductive LineCap where
  | butt
  | round
  | square
deriving DecidableEq, Repr

/-- How two segments of a line are joined. -/
inductive LineJoin where
  | miter
  | round
  | bevel
deriving DecidableEq, Repr

/-- The shape of a line, apart from its color. -/
structure Pen where
  width : Float := 1
  startCap : LineCap := .round
  endCap : LineCap := .round
  join : LineJoin := .round
  miterLimit : Float := 4
  dashes : List Float := []
  dashOffset : Float := 0
deriving DecidableEq

/-- Fills an area. -/
structure Fill where
  color : Color := .transparent
  depth : Nat := 0
deriving DecidableEq

/-- Draws a line. -/
structure Stroke where
  color : Color := .transparent
  pen : Pen := {}
  depth : Nat := 0
deriving DecidableEq

/-- Draws an icon of an atlas. -/
structure Marker where
  image : String
  icon : String
  origin : Point
  size : Size
  scale : Float
  /-- Clockwise, in radians. -/
  rotation : Float
  opacity : Float
  depth : Nat
deriving DecidableEq

/-- Draws a circle. -/
structure Circle where
  radius : Float
  fill : Option Color
  stroke : Option Color
  depth : Nat
deriving DecidableEq

/-- The rim around the letters of a label. -/
structure Halo where
  width : Float
  color : Color
deriving DecidableEq

/-- Draws a label. -/
structure Label where
  /-- The text, with line breaks. -/
  text : String := ""
  /-- The font, as a CSS shorthand. -/
  font : String := ""
  offset : Point := ⟨0, 0⟩
  color : Option Color := none
  halo : Option Halo := none
  depth : Nat := 0
deriving DecidableEq

/-- An instruction to draw something. -/
inductive Instruction where
  | fill (style : Fill)
  | stroke (style : Stroke)
  | marker (style : Marker)
  | circle (style : Circle)
  | label (style : Label)
deriving DecidableEq

/-- What an instruction draws. -/
inductive InstructionKind where
  | fill
  | stroke
  | marker
  | circle
  | label
deriving DecidableEq, Repr

/-- What an instruction draws. -/
def Instruction.kind : Instruction → InstructionKind
  | .fill _ => .fill
  | .stroke _ => .stroke
  | .marker _ => .marker
  | .circle _ => .circle
  | .label _ => .label

/-- The depth at which an instruction is drawn. -/
def Instruction.depth : Instruction → Nat
  | .fill style => style.depth
  | .stroke style => style.depth
  | .marker style => style.depth
  | .circle style => style.depth
  | .label style => style.depth

end MapStyling
