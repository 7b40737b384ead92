import Mathlib.Data.List.Nodup
import MapStyling.Resolver

/-!
# The order of layers

The layers of a sheet are in the order of the document, each with its position there
(`Sheet.pairwise_index_compile`, `Sheet.id_of_mem_compile`). Their groups by source-layer are made
once; looking a feature up in them finds what a scan of all layers finds
(`LayerGroups.filterMap_candidates`), and no layer twice (`Sheet.nodup_index_candidates`).
-/

namespace MapStyling

/-- The layers that may draw a feature, by a scan of all: those whose source-layer is the text that
the feature has for it, then those without a source-layer. -/
def Sheet.candidates (sheet : Sheet) (attributes : Attributes) : List CompiledLayer :=
  let name := (attributes sourceLayerAttribute).bind Value.string?
  (sheet.layers.filter fun layer => layer.sourceLayer.isSome && layer.sourceLayer == name) ++
    sheet.layers.filter fun layer => layer.sourceLayer.isNone

/-! ## Groups -/

namespace LayerGroups

/-- The group of a source-layer holds the positions of its layers, in their order. -/
theorem bySource_foldl_add (entries : List (CompiledLayer × Nat)) (groups : LayerGroups)
    (name : String) :
    ((entries.foldl add groups).bySource.get? name).getD [] =
      (groups.bySource.get? name).getD [] ++
        (entries.filter fun entry => entry.1.sourceLayer == some name).map (·.2) := by
  induction entries generalizing groups with
  | nil => exact (List.append_nil _).symm
  | cons entry entries ih =>
    rw [List.foldl_cons, ih, List.filter_cons]
    cases hsource : entry.1.sourceLayer with
    | none =>
      have hadd : (groups.add entry).bySource = groups.bySource := by
        simp only [add, hsource]
      rw [hadd]
      rfl
    | some source =>
      simp only [add, hsource, Keyed.get?_insert]
      by_cases h : source = name
      · simp [h]
      · simp [h]

theorem ungrouped_foldl_add (entries : List (CompiledLayer × Nat)) (groups : LayerGroups) :
    (entries.foldl add groups).ungrouped =
      groups.ungrouped ++ (entries.filter fun entry => entry.1.sourceLayer.isNone).map (·.2) := by
  induction entries generalizing groups with
  | nil => exact (List.append_nil _).symm
  | cons entry entries ih =>
    rw [List.foldl_cons, ih, List.filter_cons]
    cases hsource : entry.1.sourceLayer with
    | none => simp [add, hsource]
    | some source => simp [add, hsource]

/-- Looking up the positions of some layers gives these layers. -/
theorem filterMap_positions (layers : List CompiledLayer) (p : CompiledLayer → Bool) :
    (((layers.zipIdx.filter fun entry => p entry.1).map (·.2)).filterMap fun i => layers[i]?) =
      layers.filter p := by
  have hlookup : ∀ entry ∈ layers.zipIdx.filter fun entry => p entry.1,
      layers[entry.2]? = some entry.1 := by
    intro entry hentry
    exact List.mem_zipIdx_iff_getElem?.mp (List.mem_filter.mp hentry).1
  calc ((layers.zipIdx.filter fun entry => p entry.1).map (·.2)).filterMap (fun i => layers[i]?)
      = (layers.zipIdx.filter fun entry => p entry.1).filterMap fun entry => layers[entry.2]? :=
        List.filterMap_map
    _ = (layers.zipIdx.filter fun entry => p entry.1).filterMap fun entry => some entry.1 :=
        List.filterMap_congr hlookup
    _ = (layers.zipIdx.filter fun entry => p entry.1).map (·.1) :=
        congrFun List.filterMap_eq_map' _
    _ = (layers.zipIdx.map (·.1)).filter p := List.filter_map.symm
    _ = layers.filter p := by rw [List.zipIdx_map_fst]

/-- The groups find the layers that a scan finds, in the same order. -/
theorem filterMap_candidates (sheet : Sheet) (attributes : Attributes) :
    (((ofLayers sheet.layers).candidates attributes).filterMap fun i => sheet.layers[i]?) =
      sheet.candidates attributes := by
  have hnone := ungrouped_foldl_add sheet.layers.zipIdx ⟨[], []⟩
  simp only [candidates, ofLayers, Sheet.candidates, List.filterMap_append, hnone, List.nil_append,
    filterMap_positions sheet.layers fun layer => layer.sourceLayer.isNone]
  congr 1
  cases (attributes sourceLayerAttribute).bind Value.string? with
  | none =>
    have hempty : sheet.layers.filter (fun layer =>
        layer.sourceLayer.isSome && layer.sourceLayer == none) = [] := by
      refine List.filter_eq_nil_iff.mpr fun layer _ => ?_
      cases layer.sourceLayer <;> simp
    rw [hempty]
    rfl
  | some name =>
    have hsome := bySource_foldl_add sheet.layers.zipIdx ⟨[], []⟩ name
    have hfilter : ∀ layer ∈ sheet.layers, (layer.sourceLayer == some name) =
        (layer.sourceLayer.isSome && layer.sourceLayer == some name) := by
      intro layer _
      cases layer.sourceLayer <;> rfl
    rw [Option.bind_some, hsome]
    exact (filterMap_positions sheet.layers fun layer => layer.sourceLayer == some name).trans
      (List.filter_congr hfilter)

end LayerGroups

/-! ## Positions -/

/-- Entries that keep their positions, if they are kept, stay in their order. -/
theorem positions_filterMap_sublist {f : Layer × Nat → Option (Layer × Nat)}
    (hf : ∀ entry kept, f entry = some kept → kept.2 = entry.2) (entries : List (Layer × Nat)) :
    ((entries.filterMap f).map (·.2)).Sublist (entries.map (·.2)) := by
  induction entries with
  | nil => exact .slnil
  | cons entry entries ih =>
    cases hkept : f entry with
    | none =>
      rw [List.filterMap_cons_none hkept]
      exact ih.cons _
    | some kept =>
      rw [List.filterMap_cons_some hkept, List.map_cons, List.map_cons, hf entry kept hkept]
      exact ih.cons_cons _

/-- The positions of the prepared layers are some of those of the document, in their order. -/
theorem Document.pairwise_position_prepared (document : Document) (selection : LayerSelection) :
    ((document.prepared selection).map (·.2)).Pairwise (· < ·) := by
  have hpositions : (document.layers.zipIdx.map (·.2)).Pairwise (· < ·) := by
    rw [List.zipIdx_map_snd]
    exact List.pairwise_lt_range'
  refine hpositions.sublist (positions_filterMap_sublist ?_ document.layers.zipIdx)
  rintro ⟨layer, index⟩ kept hkept
  obtain ⟨resolved, -, rfl⟩ := Option.map_eq_some_iff.mp hkept
  rfl

namespace Sheet

variable {document : Document} {selection : LayerSelection} {fonts : Option (List String)}

/-- The layers of a sheet are in the order of the document. -/
theorem pairwise_index_compile :
    ((compile document selection fonts).layers.map (·.index)).Pairwise (· < ·) := by
  have hindex : (compile document selection fonts).layers.map (·.index) =
      (document.prepared selection).map (·.2) := by
    simp only [compile, List.map_map]
    rfl
  rw [hindex]
  exact document.pairwise_position_prepared selection

/-- A layer of a sheet is compiled from the one at its position, with the structure of that. -/
theorem exists_of_mem_compile {layer : CompiledLayer}
    (h : layer ∈ (compile document selection fonts).layers) :
    ∃ original resolved, document.layers[layer.index]? = some original ∧
      original.inherit? document = some resolved ∧
      layer = resolved.normalize.compile layer.index fonts := by
  obtain ⟨⟨prepared, index⟩, hprepared, rfl⟩ := List.mem_map.mp h
  obtain ⟨⟨original, i⟩, horiginal, hselected⟩ := List.mem_filterMap.mp hprepared
  obtain ⟨resolved, hresolved, heq⟩ := Option.map_eq_some_iff.mp hselected
  cases heq
  exact ⟨original, resolved, List.mem_zipIdx_iff_getElem?.mp horiginal,
    (Option.filter_eq_some_iff.mp hresolved).1, rfl⟩

/-- The position of a layer is that of the layer with its id in the document. -/
theorem id_of_mem_compile {layer : CompiledLayer}
    (h : layer ∈ (compile document selection fonts).layers) :
    (document.layers[layer.index]?).map (·.id) = some layer.id := by
  obtain ⟨original, resolved, hposition, hinherit, hcompiled⟩ := exists_of_mem_compile h
  have hid : resolved.id = original.id := by
    unfold Layer.inherit? at hinherit
    split at hinherit
    · cases hinherit
      rfl
    · obtain ⟨target, -, rfl⟩ := Option.map_eq_some_iff.mp hinherit
      rfl
  rw [hposition, Option.map_some, ← hid, hcompiled]
  rfl

/-- No layer draws a feature twice. -/
theorem nodup_index_candidates {sheet : Sheet}
    (h : (sheet.layers.map (·.index)).Pairwise (· < ·)) (attributes : Attributes) :
    ((sheet.candidates attributes).map (·.index)).Nodup := by
  have hnodup : (sheet.layers.map (·.index)).Nodup := h.imp Nat.ne_of_lt
  have hfilter : ∀ p : CompiledLayer → Bool, ((sheet.layers.filter p).map (·.index)).Nodup :=
    fun p => hnodup.sublist (List.filter_sublist.map _)
  simp only [candidates, List.map_append]
  refine List.nodup_append.mpr ⟨hfilter _, hfilter _, ?_⟩
  -- Two layers of one position are the same, so they have or lack a source-layer together.
  intro i hi j hj hij
  obtain ⟨l, hl, rfl⟩ := List.mem_map.mp hi
  obtain ⟨l', hl', rfl⟩ := List.mem_map.mp hj
  obtain ⟨hmem, hsome⟩ := List.mem_filter.mp hl
  obtain ⟨hmem', hnone⟩ := List.mem_filter.mp hl'
  obtain rfl : l = l' := List.inj_on_of_nodup_map hnodup hmem hmem' hij
  cases hsource : l.sourceLayer with
  | none => simp [hsource] at hsome
  | some name => simp [hsource] at hnone

end Sheet

end MapStyling
