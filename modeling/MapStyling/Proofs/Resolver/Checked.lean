import MapStyling.Proofs.Checked
import MapStyling.Proofs.Resolver.Assembly

/-!
# Resolving without a gap

Beside the resolver here is one that stops where anything is missing: a layer at a grouped position, a
level of the ladder, a stop, the fonts of a layer, a slot of the wanted kind, a slot for each active
instruction. It then has no result at all.

It never stops. After all requests, what it answers is what the resolver answers
(`Resolver.resolve?_run_eq_some`). What a request preserves is that the pool has a slot for each
active instruction (`Resolver.serve?_eq_some`); all else is settled when the resolver is made
(`Resolver.Complete`).
-/

namespace MapStyling

/-! ## Desks -/

/-- The name of the font of a sketch. -/
def Sketch.font? : Sketch → Option String
  | .label sketch => some sketch.font
  | _ => none

namespace Desk

variable {materials : Materials} {desk : Desk}

/-- Draws a sketch; none if there is no slot of its kind, or if the style of its font cannot be cut
off. -/
def draw? (materials : Materials) (depth : Nat) (desk : Desk) (sketch : Sketch) : Option Desk :=
  let found := desk.find materials depth sketch
  if sketch.font?.all FontDescriptor.isSliceable then
    match found.1 with
    | none => some found.2
    | some instruction =>
      (found.2.pool.put? instruction).map fun pool => { found.2 with pool := pool }
  else none

/-- Draws what a layer draws of a feature; none if something is missing for it. -/
def drawLayer? (materials : Materials) (kind : GeometryKind) (zoom : Float)
    (attributes : Attributes) (desk : Desk) (layer : CompiledLayer) : Option Desk := do
  let sketches ← layer.sketches? kind zoom attributes
  sketches.foldlM (draw? materials layer.index) desk

/-- Every sketch is drawn. -/
theorem draw?_eq_some (h : desk.pool.Fits) (depth : Nat) (sketch : Sketch) :
    desk.draw? materials depth sketch = some (desk.draw materials depth sketch) := by
  have hfont : sketch.font?.all FontDescriptor.isSliceable = true := by
    cases sketch.font? with
    | none => rfl
    | some name => exact FontDescriptor.isSliceable_eq_true name
  rw [draw_eq_put, draw?]
  dsimp only
  rw [if_pos hfont]
  cases (desk.find materials depth sketch).1 with
  | none => rfl
  | some instruction =>
    have hfits : (desk.find materials depth sketch).2.pool.Fits := by
      rw [pool_find]
      exact h
    show ((desk.find materials depth sketch).2.pool.put? instruction).map _ = _
    rw [Pool.put?_eq_some hfits]
    rfl

/-- Every complete layer is drawn. -/
theorem drawLayer?_eq_some (h : desk.pool.Fits) {layer : CompiledLayer} (hlayer : layer.Complete)
    (kind : GeometryKind) (zoom : Float) (attributes : Attributes) :
    desk.drawLayer? materials kind zoom attributes layer =
        some (desk.drawLayer materials kind zoom attributes layer) ∧
      (desk.drawLayer materials kind zoom attributes layer).pool.Fits := by
  unfold drawLayer?
  rw [CompiledLayer.sketches?_eq_some hlayer]
  refine foldlM_eq_some (fun d : Desk => d.pool.Fits) (fun d sketch hd _ => ?_) h
  exact ⟨draw?_eq_some hd layer.index sketch, fits_draw hd sketch⟩

end Desk

/-! ## Resolvers -/

/-- The positions in the groups of some layers are positions of these layers. -/
theorem LayerGroups.lt_of_mem_candidates {layers : List CompiledLayer} {attributes : Attributes}
    {position : Nat} (h : position ∈ (ofLayers layers).candidates attributes) :
    position < layers.length := by
  have hfilter : ∀ p : CompiledLayer × Nat → Bool,
      position ∈ (layers.zipIdx.filter p).map (·.2) → position < layers.length := by
    intro p hposition
    obtain ⟨entry, hentry, rfl⟩ := List.mem_map.mp hposition
    have hlookup := List.mem_zipIdx_iff_getElem?.mp (List.mem_filter.mp hentry).1
    exact (List.getElem?_eq_some_iff.mp hlookup).1
  unfold candidates ofLayers at h
  rcases List.mem_append.mp h with hgroup | hungrouped
  · cases hname : (attributes sourceLayerAttribute).bind Value.string? with
    | none =>
      rw [hname] at hgroup
      exact absurd hgroup List.not_mem_nil
    | some name =>
      rw [hname, Option.bind_some, bySource_foldl_add] at hgroup
      exact hfilter _ hgroup
  · rw [ungrouped_foldl_add] at hungrouped
    exact hfilter _ hungrouped

namespace Resolver

/-- The layers that draw a feature; none if one of the grouped positions has no layer. -/
def layersFor? (resolver : Resolver) (zoom : Float) (attributes : Attributes) :
    Option (List CompiledLayer) :=
  ((resolver.groups.candidates attributes).mapM fun i => resolver.sheet.layers[i]?).map
    (·.filter fun layer => layer.applies zoom attributes)

/-- Draws a feature on a desk whose pool is reset; none if something is missing for it. -/
def drawOn? (resolver : Resolver) (measure : Measurer) (feature : Feature) (zoom : Float)
    (desk : Desk) : Option Desk := do
  let layers ← resolver.layersFor? zoom feature.view
  layers.foldlM
    (Desk.drawLayer? (resolver.materials measure) feature.geometry.kind zoom feature.view)
    { desk with pool := desk.pool.reset }

/-- Computes the instructions of a feature; none if something is missing for them. -/
def recompute? (resolver : Resolver) (measure : Measurer) (feature : Feature) (zoom : Float)
    (state : State) : Option State := do
  let desk ← resolver.drawOn? measure feature zoom state.desk
  some { state with
    desk := desk
    revision := state.revision + 1
    misses := state.misses + 1
    events := state.events ++
      badColors resolver.parse (desk.queries.drop state.desk.queries.length) ++
      [.recomputed zoom desk.pool.active.length (state.revision + 1)] }

/-- The instructions of a feature at a zoom level, and the state after it; none if something is
missing for them. -/
def resolveAt? (resolver : Resolver) (measure : Measurer) (feature : Feature) (zoom : Float)
    (state : State) : Option (List Instruction × State) := do
  let next ← match state.last.check zoom resolver.sheet.relevant feature.view with
    | (true, last) => some { state with last := last, hits := state.hits + 1 }
    | (false, last) => resolver.recompute? measure feature zoom { state with last := last }
  let instructions ← next.desk.pool.slice?
  some (instructions, next)

/-- The instructions of a feature at a resolution, and the state after it; none if something is
missing for them. -/
def resolve? (resolver : Resolver) (measure : Measurer) (feature : Feature) (resolution : Float)
    (state : State) : Option (List Instruction × State) := do
  let zoom ← zoomLevel? resolution resolver.ladder
  resolver.resolveAt? measure feature zoom state

/-- The state after a request; none if something is missing for it. -/
def serve? (resolver : Resolver) (state : State) : Request → Option State
  | .resolve measure feature zoom => (resolver.resolveAt? measure feature zoom state).map (·.2)
  | .invalidate => some state.invalidate

/-- The state after some requests; none if something is missing for one of them. -/
def run? (resolver : Resolver) (requests : List Request) : Option State :=
  requests.foldlM resolver.serve? .start

/-- A resolver that nothing is missing of: neither layers at the grouped positions, nor anything of
these layers. -/
structure Complete (resolver : Resolver) : Prop where
  groups : resolver.groups = .ofLayers resolver.sheet.layers
  layers : ∀ layer ∈ resolver.sheet.layers, layer.Complete

theorem complete_of_build {document : Document} {options : ResolverOptions} {resolver : Resolver}
    (built : build document options = .ok resolver) : resolver.Complete where
  groups := (eq_of_build built).2
  layers := by
    intro layer hlayer
    rw [(eq_of_build built).1] at hlayer
    exact Sheet.complete_of_mem_compile hlayer

variable {resolver : Resolver}

theorem lt_of_mem_candidates (h : resolver.Complete) {attributes : Attributes} {i : Nat}
    (hi : i ∈ resolver.groups.candidates attributes) : i < resolver.sheet.layers.length := by
  rw [h.groups] at hi
  exact LayerGroups.lt_of_mem_candidates hi

theorem layersFor?_eq_some (h : resolver.Complete) (zoom : Float) (attributes : Attributes) :
    resolver.layersFor? zoom attributes = some (resolver.layersFor zoom attributes) := by
  have hpositions : ∀ i ∈ resolver.groups.candidates attributes,
      (resolver.sheet.layers[i]?).isSome = true := by
    intro i hi
    rw [List.getElem?_eq_getElem (lt_of_mem_candidates h hi), Option.isSome_some]
  unfold layersFor?
  rw [mapM_eq_some hpositions]
  rfl

theorem complete_of_mem_layersFor (h : resolver.Complete) {zoom : Float} {attributes : Attributes}
    {layer : CompiledLayer} (hlayer : layer ∈ resolver.layersFor zoom attributes) :
    layer.Complete := by
  obtain ⟨i, -, hposition⟩ := List.mem_filterMap.mp (List.mem_filter.mp hlayer).1
  exact h.layers layer (List.mem_of_getElem? hposition)

/-- Every feature is drawn, and the pool has a slot for each instruction of it. -/
theorem drawOn?_eq_some (h : resolver.Complete) (measure : Measurer) (feature : Feature)
    (zoom : Float) (desk : Desk) :
    resolver.drawOn? measure feature zoom desk = some (resolver.drawOn measure feature zoom desk) ∧
      (resolver.drawOn measure feature zoom desk).pool.Fits := by
  unfold drawOn?
  rw [layersFor?_eq_some h]
  refine foldlM_eq_some (fun d : Desk => d.pool.Fits) (fun d layer hd hlayer => ?_) desk.fits_reset
  exact Desk.drawLayer?_eq_some hd (complete_of_mem_layersFor h hlayer) _ zoom feature.view

/-- Every feature is resolved from a state whose pool has a slot for each active instruction, and
into such a state. -/
theorem resolveAt?_eq_some (h : resolver.Complete) {state : State} (hstate : state.desk.pool.Fits)
    (measure : Measurer) (feature : Feature) (zoom : Float) :
    let next := resolver.resolveAt measure feature zoom state
    resolver.resolveAt? measure feature zoom state = some (next.instructions, next) ∧
      next.desk.pool.Fits := by
  unfold resolveAt resolveAt?
  rcases state.last.check zoom resolver.sheet.relevant feature.view with ⟨_ | _, last⟩
  · obtain ⟨hdrawn, hfits⟩ := drawOn?_eq_some h measure feature zoom state.desk
    have hslice := Pool.slice?_eq_some hfits
    refine ⟨?_, hfits⟩
    simp only [recompute?, hdrawn, hslice, Option.bind_eq_bind, Option.bind_some]
    rfl
  · refine ⟨?_, hstate⟩
    simp only [Pool.slice?_eq_some hstate, Option.bind_eq_bind, Option.bind_some]
    rfl

theorem serve?_eq_some (h : resolver.Complete) {state : State} (hstate : state.desk.pool.Fits)
    (request : Request) :
    resolver.serve? state request = some (resolver.serve state request) ∧
      (resolver.serve state request).desk.pool.Fits := by
  cases request with
  | resolve measure feature zoom =>
    obtain ⟨hresolved, hfits⟩ := resolveAt?_eq_some h hstate measure feature zoom
    refine ⟨?_, hfits⟩
    rw [serve?, hresolved]
    rfl
  | invalidate => exact ⟨rfl, hstate⟩

/-- Every run of requests is served. -/
theorem run?_eq_some (h : resolver.Complete) (requests : List Request) :
    resolver.run? requests = some (resolver.run requests) ∧
      (resolver.run requests).desk.pool.Fits :=
  foldlM_eq_some (fun state : State => state.desk.pool.Fits)
    (fun _ request hstate _ => serve?_eq_some h hstate request) Pool.fits_empty

/-- Nothing is ever missing. Of a resolver that was made for a document, after any requests:
1. The positions in its groups are positions of layers, and each layer has fonts.
2. Each of the requests was served, and the pool has a slot for each active instruction.
3. Every feature is resolved at every zoom level, as the resolver resolves it.
4. So it is at every resolution.
Zoom levels and resolutions may be any doubles. -/
theorem resolve?_run_eq_some {document : Document} {options : ResolverOptions} {resolver : Resolver}
    (built : build document options = .ok resolver) (requests : List Request) (measure : Measurer)
    (feature : Feature) :
    let layers := resolver.sheet.layers
    let state := resolver.run requests
    ((∀ attributes, ∀ i ∈ resolver.groups.candidates attributes, i < layers.length) ∧
        ∀ layer ∈ layers, layer.paint.contains .textFont = true) ∧
      (resolver.run? requests = some state ∧
        state.desk.pool.length ≤ state.desk.pool.slots.length) ∧
      (∀ zoom : Float, resolver.resolveAt? measure feature zoom state =
        let next := resolver.resolveAt measure feature zoom state
        some (next.instructions, next)) ∧
      ∀ resolution : Float, resolver.resolve? measure feature resolution state =
        let next := resolver.resolve measure feature resolution state
        some (next.instructions, next) := by
  intro layers state
  have hcomplete := complete_of_build built
  obtain ⟨hrun, hfits⟩ := run?_eq_some hcomplete requests
  have hresolved : ∀ zoom : Float, resolver.resolveAt? measure feature zoom state =
      let next := resolver.resolveAt measure feature zoom state
      some (next.instructions, next) :=
    fun zoom => (resolveAt?_eq_some hcomplete hfits measure feature zoom).1
  refine ⟨⟨fun _ _ => lt_of_mem_candidates hcomplete, fun layer hlayer => ?_⟩, ⟨hrun, hfits⟩,
    hresolved, fun resolution => ?_⟩
  · exact (hcomplete.layers layer hlayer).fonts
  · rw [resolve?, zoomLevel?_eq_some]
    exact hresolved (resolver.zoomFor resolution)

/-- Labels of places, of a size with two stops at one zoom level, and with halos that have no
stops. -/
def places : Document where
  version := supportedVersion
  layers := [
    { id := "place"
      layout := some [("text-field", .string "\x7bname\x7d"),
        ("text-size", .object [("stops", .array [
          .array [.number (.integer 5), .number (.integer 10)],
          .array [.number (.integer 5), .number (.integer 12)],
          .array [.number (.integer 8), .number (.integer 20)]])]),
        ("text-halo-width", .object [("property", .string "rank"), ("stops", .array [])])] }]

/-- With a single resolution to go by, a place is resolved at one that is no number. -/
theorem resolve?_run_eq_some_places :
    let measure : Measurer := fun _ _ => 1
    let options : ResolverOptions :=
      { ladder := [10], parse := fun _ => some (.ofBytes 0 0 0 255) }
    let sheet := Sheet.compile places .all none
    let resolver := ofDocument places options
    let town : Feature :=
      { geometry := ⟨.point, false⟩
        attributes := .ofPairs [("name", .string "Town"), ("rank", .number 3)] }
    let requests : List Request := [.resolve measure town 5, .invalidate, .resolve measure town 8]
    let next := resolver.resolve measure town Float.nan (resolver.run requests)
    build places options = .ok resolver ∧
      (∀ layer ∈ sheet.layers, layer.paint.contains .textFont = true) ∧
      resolver.run? requests = some (resolver.run requests) ∧
      resolver.resolve? measure town Float.nan (resolver.run requests) =
        some (next.instructions, next) := by
  intro measure options sheet resolver town requests next
  have built : build places options = .ok resolver := rfl
  obtain ⟨⟨-, hfonts⟩, ⟨hrun, -⟩, -, hresolved⟩ :=
    resolve?_run_eq_some built requests measure town
  exact ⟨built, hfonts, hrun, hresolved Float.nan⟩

end Resolver

end MapStyling
