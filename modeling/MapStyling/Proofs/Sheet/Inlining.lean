import MapStyling.Proofs.Sheet.Order

/-!
# Layers that refer to others

A layer that refers to another can be written out: with the structure of the other in place of the
reference, and without a layout, it is compiled to the same layer (`Sheet.compile_inlined`). A layer
that refers to itself or to one that refers further is no exception, since a reference takes over
what is written and not what that refers to.

The names of the attributes that matter may differ: the templates in the layout of the other layer
count for the reference as well, and are gone where it is written out.
-/

namespace MapStyling

/-- The layer that a layer amounts to by the one it refers to: it has its own id and paint, and all
else but the layout from the other. -/
def Layer.inlined (layer target : Layer) : Layer where
  id := layer.id
  type := target.type
  source := target.source
  sourceLayer := target.sourceLayer
  minZoom := target.minZoom
  maxZoom := target.maxZoom
  filter := target.filter
  paint := layer.paint

/-- The document with another layer at a position. -/
def Document.replace (document : Document) (position : Nat) (layer : Layer) : Document :=
  { document with layers := document.layers.set position layer }

/-- The layer of a sheet that is compiled from the one at a position of the document. -/
def Sheet.layerAt? (sheet : Sheet) (position : Nat) : Option CompiledLayer :=
  sheet.layers.find? fun layer => layer.index = position

/-! ## Single layers -/

variable {document : Document} {layer : Layer} {id : String}

/-- With all layers wanted, one that refers to another is selected if that is there and visible. -/
theorem Document.selected?_of_reference (hreference : layer.reference = some id) :
    document.selected? .all layer =
      ((document.layer? id).filter (·.isVisible)).map layer.withStructureOf := by
  simp only [selected?, Layer.inherit?, hreference]
  cases document.layer? id with
  | none => rfl
  | some target =>
    have hvisible : (layer.withStructureOf target).isVisible = target.isVisible := rfl
    cases htarget : target.isVisible <;>
      simp [LayerSelection.contains, Option.filter_some, hvisible, htarget]

/-- A layer that is written out is selected, as nothing hides it. -/
theorem Document.selected?_inlined (target : Layer) :
    document.selected? .all (layer.inlined target) = some (layer.inlined target) :=
  rfl

/-- A layer that refers to another is compiled like the one written out: the layout that it takes
over is not merged into its paint, and nothing else looks at it. -/
theorem Layer.compile_withStructureOf (hreference : layer.reference = some id) (target : Layer)
    (position : Nat) (fonts : Option (List String)) :
    (layer.withStructureOf target).normalize.compile position fonts =
      (layer.inlined target).normalize.compile position fonts := by
  have hdeclarations : (layer.withStructureOf target).declarations =
      (layer.inlined target).declarations := by
    have hrefers : (layer.withStructureOf target).reference = some id := hreference
    unfold declarations
    rw [hrefers]
    rfl
  unfold normalize compile
  rw [hdeclarations]
  rfl

/-! ## Sheets -/

namespace Sheet

variable {selection : LayerSelection} {fonts : Option (List String)} {position : Nat}

/-- A sheet has no two layers of one position. -/
theorem layerAt?_eq_some_iff {layer : CompiledLayer} :
    (compile document selection fonts).layerAt? position = some layer ↔
      layer ∈ (compile document selection fonts).layers ∧ layer.index = position := by
  have hnodup : ((compile document selection fonts).layers.map (·.index)).Nodup :=
    pairwise_index_compile.imp Nat.ne_of_lt
  unfold layerAt?
  constructor
  · intro h
    exact ⟨List.mem_of_find?_eq_some h, by simpa using List.find?_some h⟩
  · rintro ⟨hmem, rfl⟩
    have hsome : ((compile document selection fonts).layers.find? fun other =>
        other.index = layer.index).isSome = true :=
      List.find?_isSome.mpr ⟨layer, hmem, decide_eq_true rfl⟩
    obtain ⟨other, hother⟩ := Option.isSome_iff_exists.mp hsome
    have hindex : other.index = layer.index := by simpa using List.find?_some hother
    rw [hother, List.inj_on_of_nodup_map hnodup (List.mem_of_find?_eq_some hother) hmem hindex]

/-- The layer of a position is compiled from the one there, if that is selected. -/
theorem layerAt?_compile :
    (compile document selection fonts).layerAt? position =
      ((document.layers[position]?).bind (document.selected? selection)).map fun resolved =>
        resolved.normalize.compile position fonts := by
  ext layer
  rw [layerAt?_eq_some_iff, Option.map_eq_some_iff]
  constructor
  · rintro ⟨hmem, rfl⟩
    obtain ⟨⟨prepared, index⟩, hprepared, rfl⟩ := List.mem_map.mp hmem
    obtain ⟨⟨original, i⟩, horiginal, hselected⟩ := List.mem_filterMap.mp hprepared
    obtain ⟨resolved, hresolved, heq⟩ := Option.map_eq_some_iff.mp hselected
    cases heq
    have hposition : document.layers[index]? = some original :=
      List.mem_zipIdx_iff_getElem?.mp horiginal
    exact ⟨resolved, Option.bind_eq_some_iff.mpr ⟨original, hposition, hresolved⟩, rfl⟩
  · rintro ⟨resolved, hresolved, rfl⟩
    obtain ⟨original, horiginal, hselected⟩ := Option.bind_eq_some_iff.mp hresolved
    have hprepared : (resolved.normalize, position) ∈ document.prepared selection :=
      List.mem_filterMap.mpr
        ⟨(original, position), List.mem_zipIdx_iff_getElem?.mpr horiginal, by simp [hselected]⟩
    exact ⟨List.mem_map.mpr ⟨_, hprepared, rfl⟩, rfl⟩

/-- Writing a reference out preserves what is compiled. A layer that refers to another:

1. is compiled, if that is there and visible, to the same layer as the one written out, which has
   its own id and position, and the source-layer, zoom levels and filter of the other;
2. is left out of the sheet if the other is hidden or not there. -/
theorem compile_inlined (document : Document) (fonts : Option (List String)) {position : Nat}
    {layer : Layer} {id : String} (hlayer : document.layers[position]? = some layer)
    (hreference : layer.reference = some id) :
    (∀ target, document.layer? id = some target → target.isVisible = true →
      ∃ compiled, (compile document .all fonts).layerAt? position = some compiled ∧
        (compile (document.replace position (layer.inlined target)) .all fonts).layerAt? position =
          some compiled ∧
        compiled.id = layer.id ∧ compiled.index = position ∧
        compiled.sourceLayer = target.sourceLayer ∧
        compiled.zoom = ⟨target.minZoom, target.maxZoom⟩ ∧
        compiled.filter = target.filter.map Filter.ofJson) ∧
    ((∀ target, document.layer? id = some target → target.isVisible = false) →
      (compile document .all fonts).layerAt? position = none) := by
  have hselected := document.selected?_of_reference hreference
  constructor
  · intro target htarget hvisible
    have hreplaced : (document.replace position (layer.inlined target)).layers[position]? =
        some (layer.inlined target) :=
      List.getElem?_set_self (List.getElem?_eq_some_iff.mp hlayer).1
    refine ⟨(layer.inlined target).normalize.compile position fonts, ?_, ?_, rfl, rfl, rfl, rfl,
      rfl⟩
    · rw [layerAt?_compile, hlayer, Option.bind_some, hselected, htarget, Option.filter_some,
        if_pos hvisible, Option.map_some, Option.map_some, Layer.compile_withStructureOf hreference]
    · rw [layerAt?_compile, hreplaced, Option.bind_some, Document.selected?_inlined,
        Option.map_some]
  · intro hhidden
    have hnone : (document.layer? id).filter (·.isVisible) = none := by
      rw [Option.filter_eq_none_iff]
      intro target htarget
      rw [hhidden target htarget]
      exact Bool.false_ne_true
    rw [layerAt?_compile, hlayer, Option.bind_some, hselected, hnone]
    rfl

/-- A road whose layout has a say in how its lines end. -/
def road : Layer where
  id := "road"
  sourceLayer := some "transport"
  minZoom := some 5
  filter := some (.array [.string "has", .string "name"])
  layout := some [("line-cap", .string "round")]
  paint := some [("line-color", .string "white")]

/-- The rim of a road. Its own layout would hide it, but gives way to that of the road. -/
def rim : Layer where
  id := "rim"
  reference := some "road"
  layout := some [("visibility", .string "none")]
  paint := some [("line-color", .string "black")]

/-- A tunnel that is hidden. -/
def tunnel : Layer where
  id := "tunnel"
  layout := some [("visibility", .string "none")]

/-- What would lie around a tunnel. -/
def glow : Layer where
  id := "glow"
  reference := some "tunnel"

/-- Layers that refer to one that is drawn and to one that is hidden. -/
def roadsAndTunnels : Document where
  version := supportedVersion
  layers := [road, rim, tunnel, glow]

/-- The rim of the road is written out, and the glow of the tunnel is not there. -/
theorem compile_inlined_rim :
    roadsAndTunnels.layers[1]? = some rim ∧ rim.reference = some "road" ∧
      (∃ compiled, (compile roadsAndTunnels .all none).layerAt? 1 = some compiled ∧
        (compile (roadsAndTunnels.replace 1 (rim.inlined road)) .all none).layerAt? 1 =
          some compiled ∧
        compiled.sourceLayer = some "transport") ∧
      (compile roadsAndTunnels .all none).layerAt? 3 = none := by
  have hrim : roadsAndTunnels.layers[1]? = some rim := rfl
  have hglow : roadsAndTunnels.layers[3]? = some glow := rfl
  have hroad : roadsAndTunnels.layer? "road" = some road := rfl
  have htunnel : roadsAndTunnels.layer? "tunnel" = some tunnel := rfl
  obtain ⟨compiled, hcompiled, hinlined, -, -, hsource, -⟩ :=
    (compile_inlined roadsAndTunnels none hrim rfl).1 road hroad (by decide +kernel)
  refine ⟨hrim, rfl, ⟨compiled, hcompiled, hinlined, hsource⟩, ?_⟩
  refine (compile_inlined roadsAndTunnels none hglow rfl).2 fun target htarget => ?_
  cases htunnel.symm.trans htarget
  decide +kernel

end Sheet

end MapStyling
