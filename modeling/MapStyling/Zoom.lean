import MapStyling.Scalar

/-!
# Zoom levels

A ladder of resolutions, the coarsest first, gives each whole zoom level its resolution.
`zoomLevel` extends it to a fractional level for every resolution, and `ZoomRange` says at which
levels a layer is drawn.
-/

namespace MapStyling

variable {α : Type} [Scalar α]

/-- The zoom level of a resolution that lies above the level `i + 1` of a ladder, on the logarithmic
scale of the interval from level `i` to the next. -/
def zoomBetween? (resolution : α) (ladder : List α) (i : Nat) : Option α := do
  let coarse ← ladder[i]?
  let fine ← ladder[i + 1]?
  some (Scalar.ofNat i + Scalar.ln (coarse / resolution) / Scalar.ln (coarse / fine))

/-- The zoom level of a resolution on a ladder of descending resolutions. A resolution of the ladder
has its index as its level. One below the ladder, or that is not positive, has the last level; one
above continues the first interval. An empty ladder has the level zero alone. -/
def zoomLevel (resolution : α) (ladder : List α) : α :=
  match ladder.length with
  | 0 => Scalar.ofNat 0
  | last + 1 =>
    match ladder.findIdx? fun r => Scalar.eq r resolution with
    | some i => Scalar.ofNat i
    | none =>
      if Scalar.isNaN resolution || Scalar.le resolution (Scalar.ofNat 0) || last == 0 then
        Scalar.ofNat last
      else
        match ladder.findIdx? fun r => Scalar.lt r resolution with
        | none => Scalar.ofNat last
        | some finer => (zoomBetween? resolution ladder (finer - 1)).getD (Scalar.ofNat last)

/-- A ladder of a number of levels, in which each resolution is half the one before. -/
def pyramid (coarsest : Float) : Nat → List Float
  | 0 => []
  | levels + 1 => coarsest :: pyramid (coarsest / 2) levels

/-- The ladder of tiles of 256 pixels over the whole world, with 22 levels. -/
def defaultLadder : List Float :=
  pyramid 156543.03392804097 22

/-- The zoom levels from `min` up to but not including `max`, each bound if there is one. -/
structure ZoomRange where
  min : Option Float
  max : Option Float

/-- Whether a zoom level lies in a range. -/
def ZoomRange.contains (range : ZoomRange) (zoom : Float) : Bool :=
  !(range.min.any fun min => zoom < min) && !(range.max.any fun max => max ≤ zoom)

end MapStyling
