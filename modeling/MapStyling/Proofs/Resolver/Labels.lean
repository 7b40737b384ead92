import MapStyling.Proofs.Resolver.Fonts
import MapStyling.Proofs.Text.Case
import MapStyling.Proofs.Text.Lines

/-!
# The texts of labels

A layer labels a feature with what its `text-field` says of the feature, if it says anything
(`PaintView.Says`). This is then changed in letter case and broken into lines. Letter case leaves
spaces and nothing else as spaces, but lines are made of words, and there are no words in spaces. So a
label with an empty text is drawn exactly where a layer says nothing but spaces
(`Resolver.text_of_label_eq_empty_iff`).
-/

namespace MapStyling

variable {view : PaintView} {kind : GeometryKind}

/-! ## What a layer says -/

/-- A layer labels a feature of some kind with a text in a font: there are no labels along lines, the
text is that of `text-field` with the attributes in place, and it is not empty. -/
structure PaintView.Says (view : PaintView) (kind : GeometryKind) (text font : String) : Prop where
  notLine : kind ≠ .lineString
  field : (view.value? .textField).map (renderText · view.attributes) = some text
  nonempty : text ≠ ""
  font : (view.value? .textFont).bind fontName? = some font

namespace PaintView

theorem labelText?_eq_some_iff {label : String} :
    view.labelText? = some label ↔
      ∃ text, (view.value? .textField).map (renderText · view.attributes) = some text ∧ text ≠ "" ∧
        label = Text.transform (view.text? .textTransform) text := by
  unfold labelText?
  cases view.value? .textField with
  | none => simp
  | some field =>
    simp only [Option.map_some, Option.some.injEq, String.isEmpty_iff]
    split
    next hempty => simp [hempty]
    next hnonempty =>
      constructor
      · intro h
        cases h
        exact ⟨_, rfl, hnonempty, rfl⟩
      · rintro ⟨text, rfl, -, rfl⟩
        rfl

theorem mem_labelSketches_iff {sketch : LabelSketch} :
    .label sketch ∈ view.labelSketches ↔
      ∃ text font, view.labelText? = some text ∧ (view.value? .textFont).bind fontName? = some font ∧
        sketch = view.label text font := by
  unfold labelSketches
  split
  next text font htext hfont => simp [htext, hfont]
  next hnone =>
    simp only [List.not_mem_nil, false_iff, not_exists, not_and]
    intro text font htext hfont
    exact absurd hfont (hnone text font htext)

/-- The labels of a layer are those of what it says. -/
theorem label_mem_sketches_iff {sketch : LabelSketch} :
    .label sketch ∈ view.sketches kind ↔
      ∃ text font, view.Says kind text font ∧
        sketch = view.label (Text.transform (view.text? .textTransform) text) font := by
  constructor
  · intro h
    have hkind : kind ≠ .lineString := by
      rintro rfl
      have hkinds := view.kinds_lineSketches.subset (List.mem_map_of_mem h)
      exact absurd hkinds (by simp [Sketch.kind])
    obtain ⟨label, font, hlabel, hfont, rfl⟩ := mem_labelSketches_iff.mp (mem_labelSketches h)
    obtain ⟨text, hfield, hnonempty, rfl⟩ := labelText?_eq_some_iff.mp hlabel
    exact ⟨text, font, ⟨hkind, hfield, hnonempty, hfont⟩, rfl⟩
  · rintro ⟨text, font, hsays, rfl⟩
    have hlabel := labelText?_eq_some_iff.mpr ⟨text, hsays.field, hsays.nonempty, rfl⟩
    have hmem := mem_labelSketches_iff.mpr ⟨_, font, hlabel, hsays.font, rfl⟩
    cases kind with
    | lineString => exact absurd rfl hsays.notLine
    | polygon => exact List.mem_append_right _ hmem
    | point => exact List.mem_append_right _ hmem

end PaintView

/-- Nothing is left of a label exactly if nothing but spaces was said. -/
theorem PaintView.text_label_draw_eq_empty_iff (materials : Materials) (view : PaintView)
    (text font : String) (depth : Nat) :
    ((view.label (Text.transform (view.text? .textTransform) text) font).draw materials depth).text =
        "" ↔ ∀ c ∈ text.toList, c = ' ' :=
  (Wrap.wrap_eq_empty_iff _ _ _ _).trans (Text.spaces_transform_iff _ text)

namespace Resolver

variable {resolver : Resolver} {measure : Measurer} {feature : Feature} {zoom : Float}

/-- The labels of a feature are those of what its layers say. -/
theorem label_mem_instructionsOf_iff {label : Label} :
    .label label ∈ resolver.instructionsOf measure feature zoom ↔
      ∃ layer ∈ resolver.layersFor zoom feature.view,
        let view : PaintView := ⟨layer.paint, zoom, feature.view⟩
        ∃ text font, view.Says feature.geometry.kind text font ∧
          label = (view.label (Text.transform (view.text? .textTransform) text) font).draw
            (resolver.materials measure) layer.index := by
  unfold instructionsOf
  rw [List.mem_flatMap]
  refine exists_congr fun layer => and_congr_right fun hlayer => ?_
  constructor
  · intro h
    obtain ⟨sketch, hsketch, hdraw⟩ := List.mem_filterMap.mp h
    cases sketch with
    | label sketch =>
      cases hdraw
      obtain ⟨text, font, hsays, rfl⟩ := PaintView.label_mem_sketches_iff.mp hsketch
      exact ⟨text, font, hsays, rfl⟩
    | fill _ _ | stroke _ _ _ | marker _ _ _ _ | circle _ _ _ =>
      cases (Sketch.kind_depth_draw? hdraw).1
  · rintro ⟨text, font, hsays, rfl⟩
    exact List.mem_filterMap.mpr
      ⟨_, PaintView.label_mem_sketches_iff.mpr ⟨text, font, hsays, rfl⟩, rfl⟩

/-- The texts of the labels in an answer, which was computed for the present feature or is that of the
latest one computed, in two parts.
1. Every label is that of a layer that says something of the feature, and its text is empty exactly if
   the layer says nothing but spaces.
2. So there is a label with an empty text exactly if there is a layer that says nothing but spaces. -/
theorem text_of_label_eq_empty_iff (resolver : Resolver) {requests : List Request}
    (alike : ∀ request ∈ requests, request.MeasuredBy measure) (feature : Feature) (zoom : Float) :
    let answer := (resolver.resolveAt measure feature zoom (resolver.run requests)).instructions
    ∃ f z, resolver.LastComputed (requests ++ [.resolve measure feature zoom]) measure f z ∧
      (resolver.isHit (resolver.run requests) feature zoom = false → f = feature ∧ z = zoom) ∧
      (∀ label, .label label ∈ answer →
        ∃ layer ∈ resolver.layersFor z f.view, ∃ text font,
          PaintView.Says ⟨layer.paint, z, f.view⟩ f.geometry.kind text font ∧
            label.depth = layer.index ∧ (label.text = "" ↔ ∀ c ∈ text.toList, c = ' ')) ∧
      ((∃ label, .label label ∈ answer ∧ label.text = "") ↔
        ∃ layer ∈ resolver.layersFor z f.view, ∃ text font,
          PaintView.Says ⟨layer.paint, z, f.view⟩ f.geometry.kind text font ∧
            ∀ c ∈ text.toList, c = ' ') := by
  intro answer
  obtain ⟨f, z, hlast, hmiss, hanswer⟩ := exists_instructions_resolveAt alike feature zoom
  rw [show answer = _ from hanswer]
  refine ⟨f, z, hlast, hmiss, ?_, ?_, ?_⟩
  · intro label hlabel
    obtain ⟨layer, hlayer, text, font, hsays, rfl⟩ := label_mem_instructionsOf_iff.mp hlabel
    exact ⟨layer, hlayer, text, font, hsays, rfl, PaintView.text_label_draw_eq_empty_iff ..⟩
  · rintro ⟨label, hlabel, hempty⟩
    obtain ⟨layer, hlayer, text, font, hsays, rfl⟩ := label_mem_instructionsOf_iff.mp hlabel
    exact ⟨layer, hlayer, text, font, hsays,
      (PaintView.text_label_draw_eq_empty_iff ..).mp hempty⟩
  · rintro ⟨layer, hlayer, text, font, hsays, hspaces⟩
    exact ⟨_, label_mem_instructionsOf_iff.mpr ⟨layer, hlayer, text, font, hsays, rfl⟩,
      (PaintView.text_label_draw_eq_empty_iff ..).mpr hspaces⟩

/-- Places with a name and a number. -/
def numberedPlaces : Document where
  version := supportedVersion
  layers := [
    { id := "place"
      layout := some [("text-field", .string "\x7bname\x7d \x7bref\x7d"),
        ("text-transform", .string "uppercase")] }]

/-- The resolver of places with a name and a number. -/
def numberedResolver : Resolver := .ofDocument numberedPlaces { parse := fun _ => none }

/-- A place with some attributes. -/
def placeWith (attributes : List (String × Value)) : Feature where
  geometry := ⟨.point, false⟩
  attributes := .ofPairs attributes

/-- A place with a number, and then one with neither a number nor a name. -/
theorem text_of_label_eq_empty_iff_numbered :
    let measure : Measurer := fun _ _ => 1
    let requests : List Request := [.resolve measure (placeWith [("ref", .string "7")]) 10]
    let answer := (numberedResolver.resolveAt measure (placeWith []) 10
      (numberedResolver.run requests)).instructions
    (∀ request ∈ requests, request.MeasuredBy measure) ∧
      ∃ f z, numberedResolver.LastComputed (requests ++ [.resolve measure (placeWith []) 10]) measure
          f z ∧
        ((∃ label, .label label ∈ answer ∧ label.text = "") ↔
          ∃ layer ∈ numberedResolver.layersFor z f.view, ∃ text font,
            PaintView.Says ⟨layer.paint, z, f.view⟩ f.geometry.kind text font ∧
              ∀ c ∈ text.toList, c = ' ') := by
  intro measure requests answer
  have alike : ∀ request ∈ requests, request.MeasuredBy measure := by
    intro request h
    rw [List.mem_singleton.mp h]
    rfl
  obtain ⟨f, z, hlast, -, -, hempty⟩ :=
    text_of_label_eq_empty_iff numberedResolver alike (placeWith []) 10
  exact ⟨alike, f, z, hlast, hempty⟩

/-- Of a place with neither a name nor a number nothing but the space between the two is said. Its
label is drawn, and it is empty. -/
theorem text_of_label_empty :
    let label : Label := { text := "", font := fontCss "Open Sans Regular" 16 }
    build numberedPlaces { parse := fun _ => none } = .ok numberedResolver ∧
      .label label ∈
        (numberedResolver.resolveAt (fun _ _ => 1) (placeWith []) 10 .start).instructions ∧
      label.text = "" := by
  intro label
  exact ⟨rfl, by decide +kernel, rfl⟩

end Resolver

end MapStyling
