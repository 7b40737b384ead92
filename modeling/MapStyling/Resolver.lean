import MapStyling.Resolver.Desk
import MapStyling.Resolver.Snapshot

/-!
# Resolving features

A resolver answers which instructions draw a feature at a zoom level. It holds a compiled style sheet
and a state: the desk it draws on, the last request and counts of the requests. A request that agrees
with the last one is answered from the pool; any other is computed anew.
-/

namespace MapStyling

/-- The positions of layers by their source-layers, and of those without one. -/
structure LayerGroups where
  bySource : Keyed (List Nat)
  ungrouped : List Nat

namespace LayerGroups

/-- Adds the position of a layer behind those of its source-layer. -/
def add (groups : LayerGroups) (entry : CompiledLayer × Nat) : LayerGroups :=
  match entry.1.sourceLayer with
  | some name =>
    { groups with
      bySource := groups.bySource.insert name ((groups.bySource.get? name).getD [] ++ [entry.2]) }
  | none => { groups with ungrouped := groups.ungrouped ++ [entry.2] }

/-- The groups of some layers. -/
def ofLayers (layers : List CompiledLayer) : LayerGroups :=
  layers.zipIdx.foldl add ⟨[], []⟩

/-- The positions of the layers that may draw a feature: those of its source-layer, then those
without a source-layer. -/
def candidates (groups : LayerGroups) (attributes : Attributes) : List Nat :=
  let name := (attributes sourceLayerAttribute).bind Value.string?
  (name.bind groups.bySource.get?).getD [] ++ groups.ungrouped

end LayerGroups

/-- What a resolver is made with. -/
structure ResolverOptions where
  selection : LayerSelection := .all
  /-- The resolutions of the zoom levels. -/
  ladder : List Float := defaultLadder
  sprite : Option SpriteAtlas := none
  /-- The fonts that can be used; without a list, all. -/
  fonts : Option (List String) := none
  parse : ColorParser

/-- A compiled style sheet, ready to resolve features. -/
structure Resolver where
  sheet : Sheet
  groups : LayerGroups
  ladder : List Float
  sprite : Option SpriteAtlas
  parse : ColorParser

namespace Resolver

/-- The resolver of a document, whose version is not looked at. -/
def ofDocument (document : Document) (options : ResolverOptions) : Resolver :=
  let sheet := Sheet.compile document options.selection options.fonts
  { sheet := sheet
    groups := .ofLayers sheet.layers
    ladder := options.ladder
    sprite := options.sprite
    parse := options.parse }

/-- Makes a resolver for a document, which has to be of the supported version. -/
def build (document : Document) (options : ResolverOptions) : Except StyleError Resolver := do
  Document.checkVersion document.version
  .ok (ofDocument document options)

/-- The materials that sketches are drawn with. -/
def materials (resolver : Resolver) (measure : Measurer) : Materials where
  parse := resolver.parse
  measure := measure
  sprite := resolver.sprite

/-- The layers that draw a feature, in the order of drawing. -/
def layersFor (resolver : Resolver) (zoom : Float) (attributes : Attributes) :
    List CompiledLayer :=
  ((resolver.groups.candidates attributes).filterMap fun i => resolver.sheet.layers[i]?).filter
    fun layer => layer.applies zoom attributes

/-- What changes from request to request. -/
structure State where
  desk : Desk
  last : Snapshot
  /-- How often instructions were computed. -/
  revision : Nat
  /-- How many requests were answered without computing. -/
  hits : Nat
  /-- How many requests were computed. -/
  misses : Nat
  /-- What was reported, in order. -/
  events : List Event

/-- The state before any request. -/
def State.start : State where
  desk := .empty
  last := .empty
  revision := 0
  hits := 0
  misses := 0
  events := []

/-- The instructions computed last. -/
def State.instructions (state : State) : List Instruction :=
  state.desk.pool.active

/-- How many widths were measured. -/
def State.measured (state : State) : Nat :=
  state.desk.queries.countP Query.isWidth

/-- The texts among some queries that turned out to be no colors. -/
def badColors (parse : ColorParser) (queries : List Query) : List Event :=
  queries.filterMap fun
    | .color text => if (parse text).isNone then some (.unparseableColor text) else none
    | .width .. => none

/-- Draws a feature on a desk whose pool is reset. -/
def drawOn (resolver : Resolver) (measure : Measurer) (feature : Feature) (zoom : Float)
    (desk : Desk) : Desk :=
  (resolver.layersFor zoom feature.view).foldl
    (Desk.drawLayer (resolver.materials measure) feature.geometry.kind zoom feature.view)
    { desk with pool := desk.pool.reset }

/-- Computes the instructions of a feature. -/
def recompute (resolver : Resolver) (measure : Measurer) (feature : Feature) (zoom : Float)
    (state : State) : State :=
  let desk := resolver.drawOn measure feature zoom state.desk
  { state with
    desk := desk
    revision := state.revision + 1
    misses := state.misses + 1
    events := state.events ++
      badColors resolver.parse (desk.queries.drop state.desk.queries.length) ++
      [.recomputed zoom desk.pool.active.length (state.revision + 1)] }

/-- Resolves a feature at a zoom level. The instructions are those of the state after it. -/
def resolveAt (resolver : Resolver) (measure : Measurer) (feature : Feature) (zoom : Float)
    (state : State) : State :=
  match state.last.check zoom resolver.sheet.relevant feature.view with
  | (true, last) => { state with last := last, hits := state.hits + 1 }
  | (false, last) => resolver.recompute measure feature zoom { state with last := last }

/-- The zoom level of a resolution. -/
def zoomFor (resolver : Resolver) (resolution : Float) : Float :=
  zoomLevel resolution resolver.ladder

/-- Resolves a feature at a resolution. -/
def resolve (resolver : Resolver) (measure : Measurer) (feature : Feature) (resolution : Float)
    (state : State) : State :=
  resolver.resolveAt measure feature (resolver.zoomFor resolution) state

/-- Forgets the last request, so that the next one is computed. -/
def State.invalidate (state : State) : State :=
  { state with last := .empty }

/-- The instructions of a feature at a zoom level, looked up anew and drawn layer by layer. -/
def instructionsOf (resolver : Resolver) (measure : Measurer) (feature : Feature) (zoom : Float) :
    List Instruction :=
  (resolver.layersFor zoom feature.view).flatMap fun layer =>
    layer.draw (resolver.materials measure) feature.geometry.kind zoom feature.view

end Resolver

end MapStyling
