import MapStyling.Proofs.Resolver.Assembly

/-!
# Selections of layers

A resolver may be made from some layers of a document only. Nothing is drawn differently for that:
the layers of its sheet are those of the sheet of all layers at the positions that are kept
(`Sheet.layers_compile`), and its instructions for a feature are those of a resolver for all layers
at the depths that are kept (`Resolver.selection_projects`).
-/

namespace MapStyling

/-- Whether a selection wants a layer of an id that draws from a source. -/
def LayerSelection.wants (selection : LayerSelection) (id : String) (source : Option String) :
    Bool :=
  match selection with
  | .all => true
  | .source name => source == some name
  | .ids names => names.contains id

namespace Document

/-- The layer that a layer has its structure from: itself, unless it refers to another; none if that
is not there. -/
def structure? (document : Document) (layer : Layer) : Option Layer :=
  match layer.reference with
  | none => some layer
  | some id => document.layer? id

/-- Whether the layer at a position of a document is drawn. The layer that it has its structure from
has to be there; by the source of that, and by the id of its own, it has to be wanted; and the layout
of that must not hide it. -/
def keeps (document : Document) (selection : LayerSelection) (position : Nat) : Bool :=
  (document.layers[position]?).any fun layer =>
    (document.structure? layer).any fun target =>
      selection.wants layer.id target.source && target.isVisible

/-! ## Sheets -/

variable {document : Document} {layer : Layer} {position : Nat}

/-- A layer with its structure is wanted, and visible, as the layer tells that it has it from. -/
theorem keeps_eq_any (h : document.layers[position]? = some layer) (selection : LayerSelection) :
    document.keeps selection position = (layer.inherit? document).any fun resolved =>
      selection.contains resolved && resolved.isVisible := by
  have hwants : ∀ resolved : Layer,
      selection.wants resolved.id resolved.source = selection.contains resolved := by
    intro resolved
    cases selection <;> rfl
  rw [keeps, h, Option.any_some, structure?, Layer.inherit?]
  cases layer.reference with
  | none =>
    rw [Option.any_some, Option.any_some, hwants]
  | some id =>
    rw [Option.any_map]
    refine congrArg (Option.any · _) (funext fun target => ?_)
    exact congrArg (· && target.isVisible) (hwants (layer.withStructureOf target))

/-- The layer at a position is selected if it is kept, and then it is the one that is selected where
all layers are wanted. -/
theorem selected?_eq_filter (h : document.layers[position]? = some layer)
    (selection : LayerSelection) :
    document.selected? selection layer =
      (document.selected? .all layer).filter fun _ => document.keeps selection position := by
  rw [keeps_eq_any h, selected?, selected?]
  cases layer.inherit? document with
  | none => rfl
  | some resolved =>
    cases hvisible : resolved.isVisible <;>
      simp [Option.filter_some, LayerSelection.contains, hvisible]

/-- The prepared layers of a selection are those of all layers at the positions that are kept. -/
theorem prepared_eq_filter (document : Document) (selection : LayerSelection) :
    document.prepared selection =
      (document.prepared .all).filter fun entry => document.keeps selection entry.2 := by
  rw [prepared, prepared, List.filter_filterMap]
  refine List.filterMap_congr fun ⟨layer, position⟩ hentry => ?_
  have hlayer : document.layers[position]? = some layer := List.mem_zipIdx_iff_getElem?.mp hentry
  simp only [selected?_eq_filter hlayer selection, Option.filter_map]
  rfl

/-- The positions of the prepared layers are those that are kept. -/
theorem positions_prepared (document : Document) (selection : LayerSelection) :
    (document.prepared selection).map (·.2) =
      (List.range document.layers.length).filter (document.keeps selection) := by
  have hkept : ∀ entry ∈ document.layers.zipIdx,
      ((document.selected? selection entry.1).map fun resolved =>
        (resolved.normalize, entry.2)).map (·.2) =
      Option.guard (document.keeps selection) entry.2 := by
    rintro ⟨layer, position⟩ hentry
    have hlayer : document.layers[position]? = some layer := List.mem_zipIdx_iff_getElem?.mp hentry
    have hkeeps : document.keeps selection position =
        (document.selected? selection layer).isSome := by
      rw [keeps_eq_any hlayer, selected?, Option.isSome_filter]
    simp only [Option.guard, hkeeps]
    cases document.selected? selection layer <;> rfl
  calc (document.prepared selection).map (·.2)
      = document.layers.zipIdx.filterMap fun entry =>
          ((document.selected? selection entry.1).map fun resolved =>
            (resolved.normalize, entry.2)).map (·.2) := List.map_filterMap
    _ = document.layers.zipIdx.filterMap fun entry =>
          Option.guard (document.keeps selection) entry.2 := List.filterMap_congr hkept
    _ = (document.layers.zipIdx.map (·.2)).filterMap (Option.guard (document.keeps selection)) :=
        by rw [List.filterMap_map]; rfl
    _ = (List.range document.layers.length).filter (document.keeps selection) := by
        rw [List.zipIdx_map_snd, List.filterMap_eq_filter, List.range_eq_range']

end Document

namespace Sheet

variable {document : Document} {selection : LayerSelection} {fonts : Option (List String)}

/-- The layers of a sheet have the positions that are kept. -/
theorem index_compile :
    (compile document selection fonts).layers.map (·.index) =
      (List.range document.layers.length).filter (document.keeps selection) := by
  rw [← document.positions_prepared selection]
  simp only [compile, List.map_map]
  rfl

/-- The layers of a sheet are those of the sheet of all layers at the positions that are kept. -/
theorem layers_compile :
    (compile document selection fonts).layers =
      (compile document .all fonts).layers.filter fun layer =>
        document.keeps selection layer.index := by
  simp only [compile, List.filter_map, document.prepared_eq_filter selection]
  rfl

/-- The layers that may draw a feature are those of the sheet of all layers at the positions that are
kept. -/
theorem candidates_compile (attributes : Attributes) :
    (compile document selection fonts).candidates attributes =
      ((compile document .all fonts).candidates attributes).filter fun layer =>
        document.keeps selection layer.index := by
  have hlayers := @layers_compile document selection fonts
  simp only [candidates, hlayers, List.filter_append, List.filter_filter, Bool.and_comm]

end Sheet

/-! ## Instructions -/

/-- All that a layer draws is at its position. -/
theorem CompiledLayer.depth_draw {layer : CompiledLayer} {materials : Materials}
    {kind : GeometryKind} {zoom : Float} {attributes : Attributes} {instruction : Instruction}
    (h : instruction ∈ layer.draw materials kind zoom attributes) :
    instruction.depth = layer.index := by
  obtain ⟨sketch, -, hdraw⟩ := List.mem_filterMap.mp h
  exact (Sketch.kind_depth_draw? hdraw).2

/-- The instructions of some of the layers are those at the depths of these layers. -/
theorem CompiledLayer.flatMap_draw_filter (layers : List CompiledLayer) (kept : Nat → Bool)
    (materials : Materials) (kind : GeometryKind) (zoom : Float) (attributes : Attributes) :
    ((layers.filter fun layer => kept layer.index).flatMap fun layer =>
        layer.draw materials kind zoom attributes) =
      (layers.flatMap fun layer => layer.draw materials kind zoom attributes).filter
        fun instruction => kept instruction.depth := by
  induction layers with
  | nil => rfl
  | cons layer layers ih =>
    rw [List.flatMap_cons, List.filter_append, ← ih, List.filter_cons]
    cases hkept : kept layer.index with
    | true =>
      rw [if_pos rfl, List.flatMap_cons]
      congr 1
      refine (List.filter_eq_self.mpr fun instruction hdraw => ?_).symm
      rw [depth_draw hdraw, hkept]
    | false =>
      rw [if_neg Bool.false_ne_true]
      have hnone : (layer.draw materials kind zoom attributes).filter
          (fun instruction => kept instruction.depth) = [] := by
        refine List.filter_eq_nil_iff.mpr fun instruction hdraw => ?_
        rw [depth_draw hdraw, hkept]
        exact Bool.false_ne_true
      rw [hnone, List.nil_append]

namespace Resolver

/-- A resolver draws with what it was made with. -/
theorem materials_of_build {document : Document} {options : ResolverOptions} {resolver : Resolver}
    (built : build document options = .ok resolver) (measure : Measurer) :
    resolver.materials measure = ⟨options.parse, measure, options.sprite⟩ := by
  rw [eq_ofDocument_of_build built]
  rfl

/-- The instructions of a resolver for some layers are those of a resolver for all layers at the
depths that are kept. -/
theorem instructionsOf_selection {document : Document} {options : ResolverOptions}
    {resolver all : Resolver} (built : build document options = .ok resolver)
    (builtAll : build document { options with selection := .all } = .ok all) (measure : Measurer)
    (feature : Feature) (zoom : Float) :
    resolver.instructionsOf measure feature zoom =
      (all.instructionsOf measure feature zoom).filter fun instruction =>
        document.keeps options.selection instruction.depth := by
  have hlayers : resolver.layersFor zoom feature.view =
      (all.layersFor zoom feature.view).filter fun layer =>
        document.keeps options.selection layer.index := by
    rw [layersFor_of_build built, layersFor_of_build builtAll, (eq_of_build built).1,
      (eq_of_build builtAll).1, Sheet.candidates_compile]
    simp only [List.filter_filter, Bool.and_comm]
  have hmaterials : resolver.materials measure = all.materials measure := by
    rw [materials_of_build built, materials_of_build builtAll]
  rw [instructionsOf, instructionsOf, hlayers, hmaterials, CompiledLayer.flatMap_draw_filter]

/-- Selecting layers of a document is a projection.

1. The layers of a sheet are in the order of the document, once each, and at exactly the positions
   that are kept.
2. Each is compiled from the layer at its position, with the structure of that.
3. Each is the layer that the sheet of all layers has at that position.
4. A resolver without history answers with those instructions of a resolver for all layers that are
   at the depths that are kept, in the same order. Where one cannot be made, neither can the other,
   for the same reason. -/
theorem selection_projects (document : Document) (options : ResolverOptions) (measure : Measurer)
    (feature : Feature) (zoom : Float) :
    let kept := document.keeps options.selection
    let layers := (Sheet.compile document options.selection options.fonts).layers
    let answer (options : ResolverOptions) := (build document options).map fun resolver =>
      (resolver.resolveAt measure feature zoom .start).instructions
    layers.map (·.index) = (List.range document.layers.length).filter kept ∧
      (∀ layer ∈ layers, ∃ original resolved, document.layers[layer.index]? = some original ∧
        original.inherit? document = some resolved ∧
        layer = resolved.normalize.compile layer.index options.fonts) ∧
      layers = (Sheet.compile document .all options.fonts).layers.filter
        (fun layer => kept layer.index) ∧
      answer options = (answer { options with selection := .all }).map
        (·.filter fun instruction => kept instruction.depth) := by
  intro kept layers answer
  refine ⟨Sheet.index_compile, fun layer => Sheet.exists_of_mem_compile, Sheet.layers_compile, ?_⟩
  have hsome := build_eq_map document options
  have hall := build_eq_map document { options with selection := .all }
  cases hversion : Document.checkVersion document.version with
  | error reason =>
    simp only [hversion, Except.map] at hsome hall
    simp only [answer, hsome, hall, Except.map]
  | ok _ =>
    simp only [hversion, Except.map] at hsome hall
    simp only [answer, hsome, hall, Except.map, instructions_resolveAt_start]
    exact congrArg Except.ok (instructionsOf_selection hsome hall measure feature zoom)

/-- An area, one that is hidden, one that refers to nothing, the rim of the first and a road. -/
def landAndRoads : Document where
  version := supportedVersion
  layers := [
    { id := "area", source := some "land", paint := some [("fill-color", .string "green")] },
    { id := "hidden", source := some "land"
      layout := some [("visibility", .string "none")] },
    { id := "lost", reference := some "nowhere" },
    { id := "rim", reference := some "area", paint := some [("line-color", .string "black")] },
    { id := "road", source := some "roads", paint := some [("line-color", .string "gray")] }]

/-- A rim is kept for the source that it has from its area. -/
theorem selection_projects_landAndRoads :
    let measure : Measurer := fun _ _ => 1
    let options : ResolverOptions :=
      { selection := .source "land", parse := fun _ => some (.ofBytes 0 0 0 255) }
    let square : Feature := { geometry := ⟨.polygon, true⟩, attributes := .ofPairs [] }
    let answer (options : ResolverOptions) := (build landAndRoads options).map fun resolver =>
      (resolver.resolveAt measure square 10 .start).instructions
    let layers := (Sheet.compile landAndRoads options.selection none).layers
    layers.map (·.index) = [0, 3] ∧
      (∃ layer ∈ layers, ∃ original resolved, landAndRoads.layers[layer.index]? = some original ∧
        original.inherit? landAndRoads = some resolved ∧
        layer = resolved.normalize.compile layer.index none) ∧
      answer options = (answer { options with selection := .all }).map
        (·.filter fun instruction => landAndRoads.keeps (.source "land") instruction.depth) := by
  intro measure options square answer layers
  obtain ⟨hindex, hcompiled, -, hanswer⟩ :=
    selection_projects landAndRoads options measure square 10
  have hpositions : layers.map (·.index) = [0, 3] := hindex.trans (by decide +kernel)
  have hmember : ∃ layer, layer ∈ layers := by
    refine List.exists_mem_of_ne_nil layers fun hnil => ?_
    rw [hnil] at hpositions
    cases hpositions
  obtain ⟨layer, hlayer⟩ := hmember
  exact ⟨hpositions, ⟨layer, hlayer, hcompiled layer hlayer⟩, hanswer⟩

end Resolver

end MapStyling
