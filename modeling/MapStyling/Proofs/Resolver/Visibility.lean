import MapStyling.Proofs.Resolver.Provenance
import MapStyling.Proofs.Resolver.Relevance

/-!
# Nothing invisible is drawn

Every instruction of an answer can be seen, whatever numbers a document or a feature comes up with:
no fill and no stroke is without alpha, no stroke and no halo without width
(`Resolver.visible_of_mem_resolveAt`).

There is a guard for each. A color that has no alpha left, or NaN, is none (`Color.visible_withOpacity?`).
That a line and a halo have a width is seen to before they are sketched (`PaintView.MaySketch.hasWidth`),
and an outline has a fixed one.
-/

namespace MapStyling

/-- A color with some alpha. -/
def Color.Visible (color : Color) : Prop :=
  color.alpha.isNaN = false ∧ ¬color.alpha ≤ 0

/-- There is something to see of a fill, a stroke and a halo. Markers, circles and the letters of
labels have no guards of this kind. -/
def Instruction.Visible : Instruction → Prop
  | .fill style => style.color.Visible
  | .stroke style => style.color.Visible ∧ 0 < style.pen.width
  | .label style => ∀ halo, style.halo = some halo → 0 < halo.width
  | .marker _ | .circle _ => True

/-- The lines and halos of a sketch have a width. -/
def Sketch.HasWidth : Sketch → Prop
  | .stroke _ _ pen => 0 < pen.width
  | .label sketch => ∀ width text, sketch.halo = some (width, text) → 0 < width
  | .fill .. | .marker .. | .circle .. => True

/-- A color that an opacity leaves is visible. -/
theorem Color.visible_withOpacity? {color composited : Color} {opacity : Float}
    (h : color.withOpacity? opacity = some composited) : composited.Visible := by
  unfold withOpacity? at h
  dsimp only at h
  split at h
  next => cases h
  next hguard =>
    cases h
    simp only [Bool.or_eq_true, decide_eq_true_eq, not_or, Bool.not_eq_true] at hguard
    exact ⟨hguard.2, hguard.1⟩

/-- Whatever a layer sketches has a width. -/
theorem PaintView.MaySketch.hasWidth {view : PaintView} {sketch : Sketch}
    (h : view.MaySketch sketch) : sketch.HasWidth := by
  cases h with
  | fill _ => trivial
  | outline _ =>
    show (0 : Float) < 1
    decide +kernel
  | line _ hwidth => exact hwidth
  | marker _ _ _ => trivial
  | circle _ _ _ => trivial
  | label text font =>
    intro width color hhalo
    simp only [PaintView.label] at hhalo
    split at hhalo
    next hwidth =>
      obtain ⟨_, -, heq⟩ := Option.map_eq_some_iff.mp hhalo
      cases heq
      exact hwidth
    next => cases hhalo

/-- What a sketch with a width yields is visible. -/
theorem Sketch.Yields.visible {parse : ColorParser} {depth : Nat} {sketch : Sketch}
    {instruction : Instruction} (h : sketch.Yields parse depth instruction)
    (hwidth : sketch.HasWidth) : instruction.Visible := by
  cases h with
  | fill _ hcolor => exact Color.visible_withOpacity? hcolor
  | stroke _ hcolor => exact ⟨Color.visible_withOpacity? hcolor, hwidth⟩
  | marker _ => trivial
  | circle _ => trivial
  | label _ hhalo =>
    intro halo hstyle
    obtain ⟨text, hsketch⟩ := hhalo halo hstyle
    exact hwidth halo.width text hsketch

/-- The position of a layer of a sheet is one of the document. -/
theorem Sheet.index_lt_of_mem_compile {document : Document} {selection : LayerSelection}
    {fonts : Option (List String)} {layer : CompiledLayer}
    (h : layer ∈ (compile document selection fonts).layers) :
    layer.index < document.layers.length := by
  obtain ⟨original, resolved, hposition, hinherit, hcompiled⟩ := exists_of_mem_compile h
  exact (List.getElem?_eq_some_iff.mp hposition).1

namespace Resolver

/-- Nothing invisible is drawn. Of a resolver that was made for a document, every instruction of every
answer, be it computed or from the pool, can be seen, and its depth is the position of a layer of the
document. Nothing is assumed of the document, of the parser of colors or of the requests. -/
theorem visible_of_mem_resolveAt {document : Document} {options : ResolverOptions}
    {resolver : Resolver} (built : build document options = .ok resolver)
    (requests : List Request) (measure : Measurer) (feature : Feature) (zoom : Float) :
    ∀ instruction ∈
      (resolver.resolveAt measure feature zoom (resolver.run requests)).instructions,
      instruction.Visible ∧ instruction.depth < document.layers.length := by
  intro instruction hmem
  obtain ⟨_, f, z, -, -, hdraws⟩ := resolver.exists_draws_resolveAt requests measure feature zoom
  obtain ⟨layer, hlayer, sketch, hsketch, hyields⟩ := hdraws instruction hmem
  have hcompiled := mem_of_mem_layersFor built hlayer
  rw [(eq_of_build built).1] at hcompiled
  refine ⟨hyields.visible (PaintView.maySketch_of_mem hsketch).hasWidth, ?_⟩
  rw [hyields.depth_eq]
  exact Sheet.index_lt_of_mem_compile hcompiled

/-- Areas whose opacity and widths are those of the feature. -/
def ownWidths : Document :=
  let own := fun name : String =>
    Json.object [("type", .string "identity"), ("property", .string name)]
  { version := supportedVersion
    layers := [
      { id := "area"
        paint := some [
          ("fill-color", .string "green"), ("fill-opacity", own "shade"),
          ("fill-outline-color", .string "black"), ("line-color", .string "black"),
          ("line-width", own "width"), ("text-field", .string "x"),
          ("text-halo-color", .string "white"), ("text-halo-width", own "rim")] }] }

/-- The resolver of these areas, for which every color is black. -/
def ownWidthsResolver : Resolver :=
  .ofDocument ownWidths { parse := fun _ => some (.ofBytes 0 0 0 255) }

/-- An area with an opacity, the width of its line and that of its halo. -/
def areaWith (shade width rim : Float) : Feature where
  geometry := ⟨.polygon, true⟩
  attributes := .ofPairs [("shade", .number shade), ("width", .number width), ("rim", .number rim)]

/-- Of an area whose opacity is NaN and whose widths are not above zero only the letters of its label
are left, though everything was drawn of the one before. -/
theorem visible_of_mem_resolveAt_ownWidths :
    let measure : Measurer := fun _ _ => 1
    let requests : List Request := [.resolve measure (areaWith 0.5 2 1) 10]
    let answer := (ownWidthsResolver.resolveAt measure (areaWith (0 / 0) (-2) 0) 10
      (ownWidthsResolver.run requests)).instructions
    build ownWidths { parse := ownWidthsResolver.parse } = .ok ownWidthsResolver ∧
      (ownWidthsResolver.run requests).instructions.map Instruction.kind =
        [.fill, .stroke, .stroke, .label] ∧
      answer.map Instruction.kind = [.label] ∧
      ∀ instruction ∈ answer, instruction.Visible ∧ instruction.depth < 1 := by
  intro measure requests answer
  have built : build ownWidths { parse := ownWidthsResolver.parse } = .ok ownWidthsResolver := rfl
  exact ⟨built, by decide +kernel, by decide +kernel,
    visible_of_mem_resolveAt built requests measure (areaWith (0 / 0) (-2) 0) 10⟩

end Resolver

end MapStyling
