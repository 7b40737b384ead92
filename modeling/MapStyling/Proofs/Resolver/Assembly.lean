import Mathlib
import MapStyling.Proofs.Resolver.History
import MapStyling.Proofs.Sheet.Order

/-!
# How instructions are assembled

Computed instructions come in blocks (`Desk.blocks`), one for each layer that draws the feature and
in the order of these layers. The instructions of a block are at the depth of its layer and of kinds
that the geometry of the feature allows, in a fixed order (`GeometryKind.pattern`).

Both are read off what a sketch comes to on a desk, whatever its tables hold. So they are true of
every computed answer, also where widths are not measured alike (`resolveAt_run_blocks`).
-/

namespace MapStyling

/-- The kinds of instructions that a layer may draw of a feature, in their order: areas have a fill,
an outline, a line and a label. -/
def GeometryKind.pattern : GeometryKind → List InstructionKind
  | .polygon => [.fill, .stroke, .stroke, .label]
  | .lineString => [.stroke]
  | .point => [.marker, .circle, .label]

/-! ## The kinds of sketches -/

namespace PaintView

/-- A sketch that may be there is of its kind or not there. -/
theorem kinds_toList {α : Type} {sketch : α → Sketch} {kind : InstructionKind}
    (h : ∀ a, (sketch a).kind = kind) (a? : Option α) :
    ((a?.map sketch).toList.map Sketch.kind).Sublist [kind] := by
  cases a? with
  | none => exact List.nil_sublist _
  | some a =>
    rw [Option.map_some, Option.toList_some, List.map_singleton, h]

theorem kinds_areaSketches (view : PaintView) :
    (view.areaSketches.map Sketch.kind).Sublist [.fill, .stroke] := by
  unfold areaSketches
  split
  · exact List.nil_sublist _
  · rw [List.map_append]
    exact (kinds_toList (by intro; rfl) _).append (kinds_toList (by intro; rfl) _)

theorem kinds_lineSketches (view : PaintView) :
    (view.lineSketches.map Sketch.kind).Sublist [.stroke] := by
  unfold lineSketches
  split
  · exact List.nil_sublist _
  · dsimp only
    split
    · exact kinds_toList (by intro; rfl) _
    · exact List.nil_sublist _

theorem kinds_labelSketches (view : PaintView) :
    (view.labelSketches.map Sketch.kind).Sublist [.label] := by
  unfold labelSketches
  split
  · exact List.Sublist.refl _
  · exact List.nil_sublist _

/-- The sketches of a feature follow the pattern of its geometry. -/
theorem kinds_sketches (view : PaintView) (kind : GeometryKind) :
    ((view.sketches kind).map Sketch.kind).Sublist kind.pattern := by
  cases kind with
  | polygon =>
    simp only [sketches, List.map_append]
    exact (view.kinds_areaSketches.append view.kinds_lineSketches).append view.kinds_labelSketches
  | lineString => exact view.kinds_lineSketches
  | point =>
    simp only [sketches, markerSketches, circleSketches, List.map_append]
    exact ((kinds_toList (by intro; rfl) _).append (kinds_toList (by intro; rfl) _)).append
      view.kinds_labelSketches

end PaintView

/-! ## Blocks -/

namespace Desk

variable {materials : Materials} {desk : Desk} {kind : GeometryKind} {zoom : Float}
  {attributes : Attributes}

/-- What some sketches come to, drawn one after another. -/
def block (materials : Materials) (depth : Nat) (desk : Desk) : List Sketch → List Instruction
  | [] => []
  | sketch :: sketches =>
    (desk.find materials depth sketch).1.toList ++
      block materials depth (desk.draw materials depth sketch) sketches

/-- What some layers come to, drawn one after another: a block for each. -/
def blocks (materials : Materials) (kind : GeometryKind) (zoom : Float) (attributes : Attributes)
    (desk : Desk) : List CompiledLayer → List (List Instruction)
  | [] => []
  | layer :: layers =>
    desk.block materials layer.index (layer.sketches kind zoom attributes) ::
      blocks materials kind zoom attributes (desk.drawLayer materials kind zoom attributes layer)
        layers

/-- Drawing some sketches adds their block. -/
theorem active_foldl_draw (h : desk.pool.Fits) (depth : Nat) (sketches : List Sketch) :
    (sketches.foldl (draw materials depth) desk).pool.Fits ∧
      (sketches.foldl (draw materials depth) desk).pool.active =
        desk.pool.active ++ desk.block materials depth sketches := by
  induction sketches generalizing desk with
  | nil => exact ⟨h, (List.append_nil _).symm⟩
  | cons sketch sketches ih =>
    obtain ⟨hfits, hactive⟩ := ih (fits_draw h sketch)
    refine ⟨hfits, ?_⟩
    rw [List.foldl_cons, hactive, active_draw h, block, List.append_assoc]

/-- Drawing some layers adds their blocks. -/
theorem active_foldl_drawLayer (h : desk.pool.Fits) (layers : List CompiledLayer) :
    (layers.foldl (drawLayer materials kind zoom attributes) desk).pool.active =
      desk.pool.active ++ (desk.blocks materials kind zoom attributes layers).flatten := by
  induction layers generalizing desk with
  | nil => exact (List.append_nil _).symm
  | cons layer layers ih =>
    obtain ⟨hfits, hactive⟩ : (desk.drawLayer materials kind zoom attributes layer).pool.Fits ∧
        (desk.drawLayer materials kind zoom attributes layer).pool.active =
          desk.pool.active ++
            desk.block materials layer.index (layer.sketches kind zoom attributes) :=
      active_foldl_draw h layer.index (layer.sketches kind zoom attributes)
    rw [List.foldl_cons, ih hfits, hactive, blocks, List.flatten_cons, List.append_assoc]

/-- The instructions of a block are at its depth, and of the kinds of the sketches. -/
theorem block_depth_kinds (materials : Materials) (desk : Desk) (depth : Nat)
    (sketches : List Sketch) :
    (∀ i ∈ desk.block materials depth sketches, i.depth = depth) ∧
      ((desk.block materials depth sketches).map Instruction.kind).Sublist
        (sketches.map Sketch.kind) := by
  induction sketches generalizing desk with
  | nil => exact ⟨fun _ hi => absurd hi List.not_mem_nil, .slnil⟩
  | cons sketch sketches ih =>
    obtain ⟨hdepths, hkinds⟩ := ih (desk.draw materials depth sketch)
    cases hfind : (desk.find materials depth sketch).1 with
    | none =>
      simp only [block, hfind, Option.toList_none, List.nil_append, List.map_cons]
      exact ⟨hdepths, hkinds.cons _⟩
    | some instruction =>
      obtain ⟨hkind, hdepth⟩ := kind_depth_find hfind
      simp only [block, hfind, Option.toList_some, List.singleton_append, List.map_cons, hkind,
        List.forall_mem_cons]
      exact ⟨⟨hdepth, hdepths⟩, hkinds.cons_cons _⟩

/-- Each block belongs to its layer: the depth is that of the layer, and the kinds are those that
the geometry allows. -/
theorem forall₂_blocks (layers : List CompiledLayer) :
    List.Forall₂
      (fun layer block => (∀ i ∈ block, i.depth = layer.index) ∧
        (block.map Instruction.kind).Sublist kind.pattern)
      layers (desk.blocks materials kind zoom attributes layers) := by
  induction layers generalizing desk with
  | nil => exact .nil
  | cons layer layers ih =>
    obtain ⟨hdepth, hkinds⟩ :=
      block_depth_kinds materials desk layer.index (layer.sketches kind zoom attributes)
    exact .cons ⟨hdepth, hkinds.trans (PaintView.kinds_sketches _ kind)⟩ ih

/-- On a sound desk a block is what its sketches come to without a desk. -/
theorem block_eq_filterMap (h : desk.Sound materials) (depth : Nat) (sketches : List Sketch) :
    desk.block materials depth sketches = sketches.filterMap (Sketch.draw? materials depth) := by
  induction sketches generalizing desk with
  | nil => rfl
  | cons sketch sketches ih =>
    rw [block, (find_finds h.agrees depth sketch).answer, ih (draw_adds h depth sketch).sound]
    cases hdraw : sketch.draw? materials depth with
    | none => rw [List.filterMap_cons_none hdraw]; rfl
    | some instruction => rw [List.filterMap_cons_some hdraw]; rfl

/-- On a sound desk each block is what its layer draws. -/
theorem blocks_eq_map (h : desk.Sound materials) (layers : List CompiledLayer) :
    desk.blocks materials kind zoom attributes layers =
      layers.map fun layer => layer.draw materials kind zoom attributes := by
  induction layers generalizing desk with
  | nil => rfl
  | cons layer layers ih =>
    rw [blocks, List.map_cons, block_eq_filterMap h,
      ih (drawLayer_adds kind zoom attributes h layer).sound]
    rfl

end Desk

/-- What a sketch comes to has the kind of the sketch and the depth it is drawn at. -/
theorem Sketch.kind_depth_draw? {materials : Materials} {depth : Nat} {sketch : Sketch}
    {instruction : Instruction} (h : sketch.draw? materials depth = some instruction) :
    instruction.kind = sketch.kind ∧ instruction.depth = depth := by
  rw [← (Desk.find_finds (Desk.agrees_empty materials) depth sketch).answer] at h
  exact Desk.kind_depth_find h

/-- Where parts of a list bear different keys, the elements of one key are one part. -/
theorem filter_flatMap_key {α β : Type} {part : α → List β} {key : α → Nat} {keyOf : β → Nat}
    (hkey : ∀ a, ∀ b ∈ part a, keyOf b = key a) {as : List α} (hnodup : (as.map key).Nodup) {a : α}
    (ha : a ∈ as) : (as.flatMap part).filter (fun b => keyOf b = key a) = part a := by
  have hself : (part a).filter (fun b => keyOf b = key a) = part a :=
    List.filter_eq_self.mpr fun b hb => decide_eq_true (hkey a b hb)
  have hother : ∀ {a'}, key a' ≠ key a → (part a').filter (fun b => keyOf b = key a) = [] := by
    intro a' hne
    refine List.filter_eq_nil_iff.mpr fun b hb heq => hne ?_
    rw [← hkey a' b hb]
    exact of_decide_eq_true heq
  induction as with
  | nil => exact absurd ha List.not_mem_nil
  | cons first rest ih =>
    rw [List.map_cons, List.nodup_cons] at hnodup
    rw [List.flatMap_cons, List.filter_append]
    rcases List.mem_cons.mp ha with rfl | hrest
    · have hnone : (rest.flatMap part).filter (fun b => keyOf b = key a) = [] := by
        rw [List.filter_flatMap, List.flatMap_eq_nil_iff]
        intro a' ha'
        exact hother fun heq => hnodup.1 (heq ▸ List.mem_map_of_mem ha')
      rw [hself, hnone, List.append_nil]
    · have hne : key first ≠ key a := fun heq => hnodup.1 (heq ▸ List.mem_map_of_mem hrest)
      rw [hother hne, List.nil_append]
      exact ih hnodup.2 hrest

/-! ## Resolvers -/

namespace Resolver

/-- Nothing but the version of a document is in the way of a resolver. -/
theorem build_eq_map (document : Document) (options : ResolverOptions) :
    build document options =
      (Document.checkVersion document.version).map fun _ => ofDocument document options := by
  unfold build
  cases Document.checkVersion document.version <;> rfl

theorem eq_ofDocument_of_build {document : Document} {options : ResolverOptions}
    {resolver : Resolver} (built : build document options = .ok resolver) :
    resolver = ofDocument document options := by
  rw [build_eq_map] at built
  cases hversion : Document.checkVersion document.version with
  | error reason =>
    rw [hversion] at built
    cases built
  | ok _ =>
    rw [hversion] at built
    exact (Except.ok.inj built).symm

/-- What a resolver is made of. -/
theorem eq_of_build {document : Document} {options : ResolverOptions} {resolver : Resolver}
    (built : build document options = .ok resolver) :
    resolver.sheet = .compile document options.selection options.fonts ∧
      resolver.groups = .ofLayers resolver.sheet.layers := by
  rw [eq_ofDocument_of_build built]
  exact ⟨rfl, rfl⟩

/-- The layers that draw a feature are found by a scan. -/
theorem layersFor_of_build {document : Document} {options : ResolverOptions} {resolver : Resolver}
    (built : build document options = .ok resolver) (zoom : Float) (attributes : Attributes) :
    resolver.layersFor zoom attributes =
      (resolver.sheet.candidates attributes).filter fun layer => layer.applies zoom attributes := by
  simp only [layersFor, (eq_of_build built).2, LayerGroups.filterMap_candidates]

theorem pairwise_index_of_build {document : Document} {options : ResolverOptions}
    {resolver : Resolver} (built : build document options = .ok resolver) :
    (resolver.sheet.layers.map (·.index)).Pairwise (· < ·) := by
  rw [(eq_of_build built).1]
  exact Sheet.pairwise_index_compile

/-- No two of the layers that draw a feature are drawn at one depth. -/
theorem nodup_index_layersFor {document : Document} {options : ResolverOptions}
    {resolver : Resolver} (built : build document options = .ok resolver) (zoom : Float)
    (attributes : Attributes) : ((resolver.layersFor zoom attributes).map (·.index)).Nodup := by
  have hcandidates :=
    Sheet.nodup_index_candidates (pairwise_index_of_build built) attributes
  rw [layersFor_of_build built]
  exact hcandidates.sublist (List.filter_sublist.map _)

/-- The source-layer of a feature does not pass for the kind of its geometry. -/
theorem candidates_view (sheet : Sheet) (feature : Feature) :
    sheet.candidates feature.view = sheet.candidates feature.attributes := by
  have hname : feature.view sourceLayerAttribute = feature.attributes sourceLayerAttribute := by
    simp [Feature.view, geometryAttribute, sourceLayerAttribute]
  simp only [Sheet.candidates, hname]

/-- A computed answer is put together from the blocks of the layers that draw the feature. -/
theorem instructions_eq_flatten_blocks {resolver : Resolver} {state : State} {feature : Feature}
    {zoom : Float} (miss : resolver.isHit state feature zoom = false) (measure : Measurer) :
    (resolver.resolveAt measure feature zoom state).instructions =
      (state.desk.reset.blocks (resolver.materials measure) feature.geometry.kind zoom feature.view
        (resolver.layersFor zoom feature.view)).flatten := by
  rw [resolveAt_of_not_isHit _ miss]
  refine (Desk.active_foldl_drawLayer state.desk.fits_reset _).trans ?_
  rw [Desk.active_reset, List.nil_append]

/-- Instructions are assembled from blocks. A computed answer of a resolver that was made for a
document is put together from one block for each layer that draws the feature. These layers are the
ones of the source-layer of the feature, then those without a source-layer, and of both those whose
zoom range holds the zoom level and whose filter, if there is one, holds of the feature.
1. The instructions of a block are at the depth of its layer, and follow the pattern of the
   geometry. Where widths were measured alike all along, a block is what its layer draws on its own.
2. No layer has two blocks.
3. The layers of the sheet are in the order of the document, each at its position there. -/
theorem resolveAt_run_blocks {document : Document} {options : ResolverOptions} {resolver : Resolver}
    (built : build document options = .ok resolver) (requests : List Request) (measure : Measurer)
    (feature : Feature) (zoom : Float)
    (miss : resolver.isHit (resolver.run requests) feature zoom = false) :
    let layers := resolver.sheet.layers
    let drawing := (resolver.sheet.candidates feature.attributes).filter fun layer =>
      layer.zoom.contains zoom && layer.filter.all (·.holds feature.view)
    (∃ blocks : List (List Instruction),
      (resolver.resolveAt measure feature zoom (resolver.run requests)).instructions =
          blocks.flatten ∧
        List.Forall₂
          (fun layer block => (∀ i ∈ block, i.depth = layer.index) ∧
            (block.map Instruction.kind).Sublist feature.geometry.kind.pattern)
          drawing blocks ∧
        ((∀ request ∈ requests, request.MeasuredBy measure) →
          blocks = drawing.map fun layer =>
            layer.draw (resolver.materials measure) feature.geometry.kind zoom feature.view)) ∧
      (drawing.map (·.index)).Nodup ∧
      (layers.map (·.index)).Pairwise (· < ·) ∧
      ∀ layer ∈ layers, (document.layers[layer.index]?).map (·.id) = some layer.id := by
  intro layers drawing
  have hdrawing : resolver.layersFor zoom feature.view = drawing := by
    rw [layersFor_of_build built, candidates_view]
    rfl
  refine ⟨?_, ?_, pairwise_index_of_build built, ?_⟩
  · have hflatten := instructions_eq_flatten_blocks miss measure
    rw [hdrawing] at hflatten
    exact ⟨_, hflatten, Desk.forall₂_blocks drawing,
      fun alike => Desk.blocks_eq_map (sound_run alike).reset drawing⟩
  · rw [← hdrawing]
    exact nodup_index_layersFor built zoom feature.view
  · intro layer hlayer
    simp only [layers, (eq_of_build built).1] at hlayer
    exact Sheet.id_of_mem_compile hlayer

/-- A layer of labels for everything in front of one of lines for roads. -/
def labelsAndRoads : Document where
  version := supportedVersion
  layers := [
    { id := "label", paint := some [("text-field", .string "\x7bname\x7d")] },
    { id := "road", sourceLayer := some "road", maxZoom := some 12
      paint := some [("line-color", .string "gray")] }]

/-- Both layers draw an area of the source-layer of roads, that of the source-layer first. -/
theorem resolveAt_run_blocks_labelsAndRoads :
    let options : ResolverOptions := { parse := fun _ => some (.ofBytes 0 0 0 255) }
    let measure : Measurer := fun _ _ => 1
    let sheet := Sheet.compile labelsAndRoads .all none
    let resolver := ofDocument labelsAndRoads options
    let square : Feature :=
      { geometry := ⟨.polygon, true⟩
        attributes := .ofPairs [("layer", .string "road"), ("name", .string "Square")] }
    let requests : List Request := [.resolve measure square 12]
    let drawing := (sheet.candidates square.attributes).filter fun layer =>
      layer.zoom.contains 11 && layer.filter.all (·.holds square.view)
    build labelsAndRoads options = .ok resolver ∧
      resolver.isHit (resolver.run requests) square 11 = false ∧
      drawing.map (·.index) = [1, 0] ∧
      ∃ blocks : List (List Instruction),
        (resolver.resolveAt measure square 11 (resolver.run requests)).instructions =
            blocks.flatten ∧
          List.Forall₂
            (fun layer block => (∀ i ∈ block, i.depth = layer.index) ∧
              (block.map Instruction.kind).Sublist [.fill, .stroke, .stroke, .label])
            drawing blocks := by
  intro options measure sheet resolver square requests drawing
  have built : build labelsAndRoads options = .ok resolver := rfl
  have miss : resolver.isHit (resolver.run requests) square 11 = false := by decide +kernel
  have hdrawing : drawing.map (·.index) = [1, 0] := by decide +kernel
  obtain ⟨⟨blocks, hflatten, hblocks, -⟩, -⟩ :=
    resolveAt_run_blocks built requests measure square 11 miss
  exact ⟨built, miss, hdrawing, blocks, hflatten, hblocks⟩

end Resolver

end MapStyling
