import MapStyling.Single

/-!
# Colors

A color has red, green, blue and alpha parts in single precision, each from zero to one. What has no
alpha left is not drawn at all, so compositing with an opacity may leave nothing.
-/

namespace MapStyling

/-- A color. -/
structure Color where
  red : Float32
  green : Float32
  blue : Float32
  alpha : Float32
deriving DecidableEq

/-- Resolves a text to a color. -/
abbrev ColorParser := String → Option Color

namespace Color

/-- The color of four bytes. -/
def ofBytes (red green blue alpha : UInt8) : Color :=
  let part (byte : UInt8) : Float32 := byte.toFloat32 * (1 / 255)
  ⟨part red, part green, part blue, part alpha⟩

/-- No color at all. -/
def transparent : Color := ofBytes 0 0 0 0

/-- The color with its alpha multiplied by an opacity, unless that leaves nothing to draw. -/
def withOpacity? (color : Color) (opacity : Float) : Option Color :=
  let alpha := color.alpha * single opacity
  if alpha ≤ 0 || alpha.isNaN then none else some { color with alpha }

end Color

end MapStyling
