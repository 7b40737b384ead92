import MapStyling.Value
import MapStyling.Keyed

/-!
# Features

A feature of a map has a geometry and attributes by name. A style sees it as one look-up
(`Feature.view`), in which the name `$type` stands for the kind of geometry.
-/

namespace MapStyling

/-- Access to values by name: none where there is no value of that name. -/
abbrev Attributes := String → Option Value

/-- Attributes by name from a list of pairs, of which the last of each name counts. -/
def Attributes.ofMap (pairs : List (String × Value)) : Attributes :=
  (Keyed.ofList pairs).get?

/-- Attributes by name from a list of pairs, of which the first of each name counts. -/
def Attributes.ofPairs (pairs : List (String × Value)) : Attributes :=
  Keyed.get? pairs

/-- What a geometry is made of. -/
inductive GeometryKind where
  | point
  | lineString
  | polygon
deriving DecidableEq, Repr

/-- The name of a kind of geometry. -/
def GeometryKind.name : GeometryKind → String
  | .point => "Point"
  | .lineString => "LineString"
  | .polygon => "Polygon"

/-- The type of a geometry: a kind, of which there may be one or a collection. -/
structure GeometryType where
  kind : GeometryKind
  multi : Bool
deriving DecidableEq, Repr

/-- The name of a type of geometry. -/
def GeometryType.name (g : GeometryType) : String :=
  if g.multi then "Multi" ++ g.kind.name else g.kind.name

/-- The type of geometry of a name. -/
def GeometryType.ofName? : String → Option GeometryType
  | "Point" => some ⟨.point, false⟩
  | "MultiPoint" => some ⟨.point, true⟩
  | "LineString" => some ⟨.lineString, false⟩
  | "MultiLineString" => some ⟨.lineString, true⟩
  | "Polygon" => some ⟨.polygon, false⟩
  | "MultiPolygon" => some ⟨.polygon, true⟩
  | _ => none

/-- A feature of a map. -/
structure Feature where
  geometry : GeometryType
  attributes : Attributes

/-- The name under which a style reads the kind of geometry. -/
def geometryAttribute : String := "$type"

/-- The name under which a feature holds its source-layer. -/
def sourceLayerAttribute : String := "layer"

/-- What a style reads of a feature: its attributes, and the kind of its geometry as `$type`. -/
def Feature.view (feature : Feature) : Attributes := fun name =>
  if name = geometryAttribute then some (.string feature.geometry.kind.name)
  else feature.attributes name

end MapStyling
