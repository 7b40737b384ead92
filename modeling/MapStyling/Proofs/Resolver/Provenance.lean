import MapStyling.Proofs.Resolver.Assembly

/-!
# Where instructions come from

Every instruction of an answer is yielded by a sketch of a layer that draws the feature
(`Resolver.exists_draws_resolveAt`). There are six kinds of sketches (`PaintView.MaySketch`), and
`Sketch.Yields` says what they yield: the color of a fill and of a stroke is the one of its text with
the opacity of the sketch, and the pen, the opacity and the width of a halo are those of the sketch.

Of all that a desk remembers, only the colors matter for this. They come from the parser alone, so
that nothing is assumed of how widths are measured from request to request.
-/

namespace MapStyling

/-! ## Sketches -/

namespace PaintView

variable {view : PaintView} {sketch : Sketch}

/-- The number of an opacity, or one. -/
def opacity (view : PaintView) (property : Property) : Float :=
  (view.number? property).getD 1

/-- What a layer may sketch, as far as its opacities and widths go: outlines share the opacity and not
the width of their fill. -/
inductive MaySketch (view : PaintView) : Sketch → Prop
  | fill (color : String) : MaySketch view (.fill color (view.opacity .fillOpacity))
  | outline (color : String) :
      MaySketch view (.stroke color (view.opacity .fillOpacity) outlinePen)
  | line (color : String) {width : Float} (hwidth : 0 < width) :
      MaySketch view (.stroke color (view.opacity .lineOpacity) (view.pen width))
  | marker (icon : String) (size rotation : Float) :
      MaySketch view (.marker icon size rotation (view.opacity .iconOpacity))
  | circle (radius : Float) (stroke fill : Option String) :
      MaySketch view (.circle radius stroke fill)
  | label (text font : String) : MaySketch view (.label (view.label text font))

theorem maySketch_of_mem_areaSketches (h : sketch ∈ view.areaSketches) : view.MaySketch sketch := by
  unfold areaSketches at h
  split at h
  · exact absurd h List.not_mem_nil
  · rcases List.mem_append.mp h with hfill | houtline
    · obtain ⟨color, -, rfl⟩ := Option.map_eq_some_iff.mp (Option.mem_toList.mp hfill)
      exact .fill color
    · obtain ⟨color, -, rfl⟩ := Option.map_eq_some_iff.mp (Option.mem_toList.mp houtline)
      exact .outline color

theorem maySketch_of_mem_lineSketches (h : sketch ∈ view.lineSketches) : view.MaySketch sketch := by
  unfold lineSketches at h
  split at h
  · exact absurd h List.not_mem_nil
  · dsimp only at h
    split at h
    next hwidth =>
      obtain ⟨color, -, rfl⟩ := Option.map_eq_some_iff.mp (Option.mem_toList.mp h)
      exact .line color hwidth
    next => exact absurd h List.not_mem_nil

theorem maySketch_of_mem_labelSketches (h : sketch ∈ view.labelSketches) :
    view.MaySketch sketch := by
  unfold labelSketches at h
  split at h
  next text font _ _ =>
    rw [List.mem_singleton.mp h]
    exact .label text font
  next => exact absurd h List.not_mem_nil

/-- A layer sketches nothing else. -/
theorem maySketch_of_mem {kind : GeometryKind} (h : sketch ∈ view.sketches kind) :
    view.MaySketch sketch := by
  cases kind with
  | polygon =>
    rcases List.mem_append.mp h with hbefore | hlabel
    · rcases List.mem_append.mp hbefore with harea | hline
      · exact maySketch_of_mem_areaSketches harea
      · exact maySketch_of_mem_lineSketches hline
    · exact maySketch_of_mem_labelSketches hlabel
  | lineString => exact maySketch_of_mem_lineSketches h
  | point =>
    rcases List.mem_append.mp h with hbefore | hlabel
    · rcases List.mem_append.mp hbefore with hmarker | hcircle
      · obtain ⟨image, -, rfl⟩ := Option.map_eq_some_iff.mp (Option.mem_toList.mp hmarker)
        exact .marker _ _ _
      · obtain ⟨radius, -, rfl⟩ := Option.map_eq_some_iff.mp (Option.mem_toList.mp hcircle)
        exact .circle _ _ _
    · exact maySketch_of_mem_labelSketches hlabel

end PaintView

/-- What a sketch may yield at a depth, as far as no other place but the sketch and the parser of
colors has a say in it. -/
inductive Sketch.Yields (parse : ColorParser) (depth : Nat) : Sketch → Instruction → Prop
  | fill {text : String} {opacity : Float} {parsed color : Color}
      (hparse : parse text = some parsed) (hcolor : parsed.withOpacity? opacity = some color) :
      Yields parse depth (.fill text opacity) (.fill ⟨color, depth⟩)
  | stroke {text : String} {opacity : Float} {pen : Pen} {parsed color : Color}
      (hparse : parse text = some parsed) (hcolor : parsed.withOpacity? opacity = some color) :
      Yields parse depth (.stroke text opacity pen) (.stroke ⟨color, pen, depth⟩)
  | marker {icon : String} {size rotation opacity : Float} (place : Placement) :
      Yields parse depth (.marker icon size rotation opacity)
        (.marker (place.marker size rotation opacity depth))
  | circle {radius : Float} {stroke fill : Option String} (style : Circle) :
      Yields parse depth (.circle radius stroke fill) (.circle { style with depth := depth })
  | label {sketch : LabelSketch} {style : Label} (hdepth : style.depth = depth)
      (hhalo : ∀ halo, style.halo = some halo →
        ∃ text, sketch.halo = some (halo.width, text)) :
      Yields parse depth (.label sketch) (.label style)

theorem Sketch.Yields.depth_eq {parse : ColorParser} {depth : Nat} {sketch : Sketch}
    {instruction : Instruction} (h : sketch.Yields parse depth instruction) :
    instruction.depth = depth := by
  cases h with
  | fill _ _ => rfl
  | stroke _ _ => rfl
  | marker _ => rfl
  | circle _ => rfl
  | label hdepth _ => exact hdepth

namespace Desk

variable {materials : Materials} {desk : Desk} {depth : Nat}

/-! ## Colors -/

theorem colors_colorOf (h : Memo.Agrees desk.colors materials.parse) (text : Option String) :
    Memo.Agrees (desk.colorOf materials text).2.colors materials.parse := by
  cases text with
  | none => exact h
  | some text => exact Memo.fetch_agrees h text

theorem colors_placement? (desk : Desk) (icon : String) :
    (desk.placement? materials icon).2.colors = desk.colors := by
  unfold placement?
  cases desk.icons.get? icon with
  | some place => rfl
  | none => cases materials.placement? icon <;> rfl

/-- Looking up what a sketch comes to leaves a table of parsed colors behind. -/
theorem colors_find (h : Memo.Agrees desk.colors materials.parse) (sketch : Sketch) :
    Memo.Agrees (desk.find materials depth sketch).2.colors materials.parse := by
  cases sketch with
  | fill text opacity => exact Memo.fetch_agrees h text
  | stroke text opacity pen => exact Memo.fetch_agrees h text
  | marker icon size rotation opacity =>
    simp only [find, colors_placement?]
    exact h
  | circle radius stroke fill =>
    simp only [find, circle]
    split
    · exact h
    · exact colors_colorOf (colors_colorOf h stroke) fill
  | label sketch =>
    simp only [find, findLabel]
    refine colors_colorOf (colors_colorOf ?_ _) _
    exact h

theorem colors_draw (h : Memo.Agrees desk.colors materials.parse) (sketch : Sketch) :
    Memo.Agrees (desk.draw materials depth sketch).colors materials.parse := by
  rw [draw_eq_put]
  cases (desk.find materials depth sketch).1 <;> exact colors_find h sketch

theorem colors_foldl_draw (h : Memo.Agrees desk.colors materials.parse)
    (sketches : List Sketch) :
    Memo.Agrees (sketches.foldl (draw materials depth) desk).colors materials.parse := by
  induction sketches generalizing desk with
  | nil => exact h
  | cons sketch sketches ih => exact ih (colors_draw h sketch)

theorem colors_drawLayer (h : Memo.Agrees desk.colors materials.parse) (kind : GeometryKind)
    (zoom : Float) (attributes : Attributes) (layer : CompiledLayer) :
    Memo.Agrees (desk.drawLayer materials kind zoom attributes layer).colors materials.parse :=
  colors_foldl_draw h (layer.sketches kind zoom attributes)

theorem colors_foldl_drawLayer (h : Memo.Agrees desk.colors materials.parse) (kind : GeometryKind)
    (zoom : Float) (attributes : Attributes) (layers : List CompiledLayer) :
    Memo.Agrees (layers.foldl (drawLayer materials kind zoom attributes) desk).colors
      materials.parse := by
  induction layers generalizing desk with
  | nil => exact h
  | cons layer layers ih => exact ih (colors_drawLayer h kind zoom attributes layer)

/-! ## Blocks -/

theorem exists_of_colorWithOpacity (h : Memo.Agrees desk.colors materials.parse) {text : String}
    {opacity : Float} {color : Color}
    (hfound : (desk.colorWithOpacity materials text opacity).1 = some color) :
    ∃ parsed, materials.parse text = some parsed ∧ parsed.withOpacity? opacity = some color := by
  have hanswer : (desk.color materials text).1 = materials.parse text := Memo.fetch_answer h text
  rw [← hanswer]
  exact Option.bind_eq_some_iff.mp hfound

/-- A sketch yields what it comes to. -/
theorem yields_find (h : Memo.Agrees desk.colors materials.parse) {sketch : Sketch}
    {instruction : Instruction}
    (hfound : (desk.find materials depth sketch).1 = some instruction) :
    sketch.Yields materials.parse depth instruction := by
  cases sketch with
  | fill text opacity =>
    obtain ⟨color, hcolor, rfl⟩ := Option.map_eq_some_iff.mp hfound
    obtain ⟨parsed, hparse, hopacity⟩ := exists_of_colorWithOpacity h hcolor
    exact .fill hparse hopacity
  | stroke text opacity pen =>
    obtain ⟨color, hcolor, rfl⟩ := Option.map_eq_some_iff.mp hfound
    obtain ⟨parsed, hparse, hopacity⟩ := exists_of_colorWithOpacity h hcolor
    exact .stroke hparse hopacity
  | marker icon size rotation opacity =>
    obtain ⟨place, -, rfl⟩ := Option.map_eq_some_iff.mp hfound
    exact .marker place
  | circle radius stroke fill =>
    cases hfound
    exact .circle _
  | label sketch =>
    cases hfound
    refine .label rfl ?_
    intro halo hhalo
    obtain ⟨⟨width, text⟩, hsketch, hcolor⟩ := Option.bind_eq_some_iff.mp hhalo
    obtain ⟨color, -, rfl⟩ := Option.map_eq_some_iff.mp hcolor
    exact ⟨text, hsketch⟩

/-- Every instruction of a block is yielded by one of its sketches. -/
theorem exists_yields_block (h : Memo.Agrees desk.colors materials.parse)
    {sketches : List Sketch} {instruction : Instruction}
    (hmem : instruction ∈ desk.block materials depth sketches) :
    ∃ sketch ∈ sketches, sketch.Yields materials.parse depth instruction := by
  induction sketches generalizing desk with
  | nil => exact absurd hmem List.not_mem_nil
  | cons sketch sketches ih =>
    rcases List.mem_append.mp hmem with hfirst | hrest
    · exact ⟨sketch, List.mem_cons_self, yields_find h (Option.mem_toList.mp hfirst)⟩
    · obtain ⟨other, hother, hyields⟩ := ih (colors_draw h sketch) hrest
      exact ⟨other, List.mem_cons_of_mem _ hother, hyields⟩

/-- Every instruction of some blocks is yielded by a sketch of one of the layers, at its depth. -/
theorem exists_yields_blocks {kind : GeometryKind} {zoom : Float} {attributes : Attributes}
    (h : Memo.Agrees desk.colors materials.parse) {layers : List CompiledLayer}
    {instruction : Instruction}
    (hmem : instruction ∈ (desk.blocks materials kind zoom attributes layers).flatten) :
    ∃ layer ∈ layers, ∃ sketch ∈ layer.sketches kind zoom attributes,
      sketch.Yields materials.parse layer.index instruction := by
  induction layers generalizing desk with
  | nil => exact absurd hmem List.not_mem_nil
  | cons layer layers ih =>
    rw [blocks, List.flatten_cons] at hmem
    rcases List.mem_append.mp hmem with hfirst | hrest
    · exact ⟨layer, List.mem_cons_self, exists_yields_block h hfirst⟩
    · obtain ⟨other, hother, hyields⟩ := ih (colors_drawLayer h kind zoom attributes layer) hrest
      exact ⟨other, List.mem_cons_of_mem _ hother, hyields⟩

end Desk

/-! ## Runs -/

namespace Resolver

variable {resolver : Resolver}

/-- An instruction is yielded by a sketch of a layer that draws the feature. -/
def Draws (resolver : Resolver) (feature : Feature) (zoom : Float) (instruction : Instruction) :
    Prop :=
  ∃ layer ∈ resolver.layersFor zoom feature.view,
    ∃ sketch ∈ layer.sketches feature.geometry.kind zoom feature.view,
      sketch.Yields resolver.parse layer.index instruction

/-- All colors on the desk of a run are those of the parser, however widths were measured. -/
theorem colors_run (requests : List Request) :
    Memo.Agrees (resolver.run requests).desk.colors resolver.parse := by
  -- The measurer changes from request to request, and the parser is that of the resolver.
  induction requests using List.reverseRecOn with
  | nil => exact Memo.agrees_nil _
  | append_singleton requests request ih =>
    rw [run_concat]
    cases request with
    | invalidate => exact ih
    | resolve measure feature zoom =>
      rw [serve]
      cases hit : resolver.isHit (resolver.run requests) feature zoom with
      | true =>
        rw [resolveAt_of_isHit _ hit]
        exact ih
      | false =>
        rw [resolveAt_of_not_isHit _ hit]
        have hreset : Memo.Agrees (resolver.run requests).desk.reset.colors
            (resolver.materials measure).parse := ih
        exact Desk.colors_foldl_drawLayer hreset feature.geometry.kind zoom feature.view _

/-- The instructions that a state holds are drawn of the feature that was computed last. -/
theorem draws_of_lastComputed {requests : List Request} {measure : Measurer} {feature : Feature}
    {zoom : Float} (computed : resolver.LastComputed requests measure feature zoom)
    {instruction : Instruction} (hmem : instruction ∈ (resolver.run requests).instructions) :
    resolver.Draws feature zoom instruction := by
  induction requests using List.reverseRecOn with
  | nil => exact absurd computed not_lastComputed_nil
  | append_singleton requests request ih =>
    rw [run_concat] at hmem
    cases request with
    | invalidate => exact absurd computed not_lastComputed_concat_invalidate
    | resolve m f z =>
      rcases lastComputed_concat_resolve.mp computed with ⟨miss, rfl, rfl, rfl⟩ | ⟨hit, hkept⟩
      · rw [serve, instructions_eq_flatten_blocks miss] at hmem
        have hreset : Memo.Agrees (resolver.run requests).desk.reset.colors
            (resolver.materials m).parse := colors_run requests
        exact Desk.exists_yields_blocks hreset hmem
      · rw [serve, resolveAt_of_isHit _ hit] at hmem
        exact ih hkept hmem

/-- Every instruction of an answer is drawn of the feature that the answer was computed for: of the
present one, unless the answer comes from the pool. -/
theorem exists_draws_resolveAt (resolver : Resolver) (requests : List Request)
    (measure : Measurer) (feature : Feature) (zoom : Float) :
    ∃ m f z, resolver.LastComputed (requests ++ [.resolve measure feature zoom]) m f z ∧
      (resolver.isHit (resolver.run requests) feature zoom = false → f = feature ∧ z = zoom) ∧
      ∀ instruction ∈
        (resolver.resolveAt measure feature zoom (resolver.run requests)).instructions,
        resolver.Draws f z instruction := by
  obtain ⟨m, f, z, hlast, hmiss⟩ := resolver.exists_lastComputed requests measure feature zoom
  refine ⟨m, f, z, hlast, hmiss, ?_⟩
  intro instruction hmem
  apply draws_of_lastComputed hlast
  rw [run_concat]
  exact hmem

end Resolver

end MapStyling
