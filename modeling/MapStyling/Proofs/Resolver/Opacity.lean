import MapStyling.Proofs.Resolver.Fonts
import MapStyling.Proofs.Resolver.Visibility
import MapStyling.Proofs.Single

/-!
# Opacities

What is drawn takes its opacity from one of three properties of its layer, and nothing keeps these
within zero and one. So a marker is drawn with whatever number its layer has for it, and a fill or a
stroke with an alpha above one, if the opacity is (`Resolver.inRange_of_opacities`). An opacity that
is below zero or NaN does no harm there, since it leaves no color at all.

With colors whose alpha is within zero and one, and opacities that are not above one, the alpha is not
above one either, though it is rounded twice: the opacity to single precision, and the product.
-/

namespace MapStyling

/-- The alpha of a color is within zero and one. -/
def Color.InRange (color : Color) : Prop :=
  0 ≤ color.alpha ∧ color.alpha ≤ 1

/-- A marker has an opacity within zero and one, and a fill and a stroke an alpha above zero and up to
one. -/
def Instruction.InRange : Instruction → Prop
  | .fill style => 0 < style.color.alpha ∧ style.color.alpha ≤ 1
  | .stroke style => 0 < style.color.alpha ∧ style.color.alpha ≤ 1
  | .marker style => 0 ≤ style.opacity ∧ style.opacity ≤ 1
  | .circle _ | .label _ => True

/-- An instruction is in keeping with the opacities of a layer. A marker has the one of icons. A fill
and a stroke have an alpha above zero, and not above one unless the opacity is, which for a stroke is
that of fills or that of lines. -/
def Instruction.Shows (opacity : Property → Float) : Instruction → Prop
  | .fill style =>
    0 < style.color.alpha ∧ (¬1 < opacity .fillOpacity → style.color.alpha ≤ 1)
  | .stroke style =>
    0 < style.color.alpha ∧ ∃ property, (property = .fillOpacity ∨ property = .lineOpacity) ∧
      (¬1 < opacity property → style.color.alpha ≤ 1)
  | .marker style => style.opacity = opacity .iconOpacity
  | .circle _ | .label _ => True

/-- What an opacity leaves of a color has an alpha above zero, and not above one unless the opacity
is. -/
theorem Color.alpha_withOpacity? {color composited : Color} {opacity : Float}
    (hrange : color.InRange) (h : color.withOpacity? opacity = some composited) :
    0 < composited.alpha ∧ (¬1 < opacity → composited.alpha ≤ 1) := by
  obtain ⟨hnumber, hpositive⟩ := visible_withOpacity? h
  have halpha : composited.alpha = color.alpha * single opacity := by
    unfold withOpacity? at h
    dsimp only at h
    split at h
    · cases h
    · cases h
      rfl
  constructor
  · exact Single.pos_of_not_le_zero hnumber hpositive
  · intro habove
    -- The alpha is a number, so the opacity is one as well.
    have hopacity : opacity.isNaN = false := by
      cases hnan : opacity.isNaN with
      | false => rfl
      | true =>
        rw [halpha, Single.isNaN_mul_single hnan] at hnumber
        cases hnumber
    have hle : opacity ≤ 1 := Double.le_of_not_lt hopacity (by decide +kernel) habove
    rw [halpha] at hnumber ⊢
    exact Single.mul_le_one hrange.1 hrange.2 (Single.single_le_one hle) hnumber

/-- What a sketch of a layer yields is in keeping with the opacities of the layer. -/
theorem Sketch.Yields.shows {parse : ColorParser} {view : PaintView} {depth : Nat} {sketch : Sketch}
    {instruction : Instruction}
    (colors : ∀ text color, parse text = some color → color.InRange)
    (hsketch : view.MaySketch sketch) (hyields : sketch.Yields parse depth instruction) :
    instruction.Shows view.opacity := by
  cases hsketch with
  | fill text =>
    cases hyields with
    | fill hparse hcolor => exact Color.alpha_withOpacity? (colors _ _ hparse) hcolor
  | outline text =>
    cases hyields with
    | stroke hparse hcolor =>
      obtain ⟨hpositive, hle⟩ := Color.alpha_withOpacity? (colors _ _ hparse) hcolor
      exact ⟨hpositive, .fillOpacity, .inl rfl, hle⟩
  | line text hwidth =>
    cases hyields with
    | stroke hparse hcolor =>
      obtain ⟨hpositive, hle⟩ := Color.alpha_withOpacity? (colors _ _ hparse) hcolor
      exact ⟨hpositive, .lineOpacity, .inr rfl, hle⟩
  | marker icon size rotation =>
    cases hyields with
    | marker place => rfl
  | circle radius stroke fill =>
    cases hyields with
    | circle style => trivial
  | label text font =>
    cases hyields with
    | label hdepth hhalo => trivial

/-- What is in keeping with opacities in range is in range. -/
theorem Instruction.Shows.inRange {opacity : Property → Float} {instruction : Instruction}
    (h : instruction.Shows opacity)
    (hicon : 0 ≤ opacity .iconOpacity ∧ opacity .iconOpacity ≤ 1)
    (hfill : ¬1 < opacity .fillOpacity) (hline : ¬1 < opacity .lineOpacity) :
    instruction.InRange := by
  cases instruction with
  | fill style => exact ⟨h.1, h.2 hfill⟩
  | stroke style =>
    obtain ⟨hpositive, property, rfl | rfl, hle⟩ := h
    · exact ⟨hpositive, hle hfill⟩
    · exact ⟨hpositive, hle hline⟩
  | marker style =>
    have hopacity : style.opacity = opacity .iconOpacity := h
    show 0 ≤ style.opacity ∧ style.opacity ≤ 1
    rw [hopacity]
    exact hicon
  | circle style => trivial
  | label style => trivial

namespace Resolver

/-- The opacities in an answer, with a parser of colors whose alpha is within zero and one, in two
parts. The answer was computed for the present feature, or is that of the latest one computed.
1. Every instruction is in keeping with the opacities of a layer that draws the feature.
2. So it is in range, if these layers have an opacity of icons within zero and one, and none of fills
   and of lines above one. -/
theorem inRange_of_opacities (resolver : Resolver)
    (colors : ∀ text color, resolver.parse text = some color → color.InRange)
    (requests : List Request) (measure : Measurer) (feature : Feature) (zoom : Float) :
    let answer := (resolver.resolveAt measure feature zoom (resolver.run requests)).instructions
    ∃ m f z, resolver.LastComputed (requests ++ [.resolve measure feature zoom]) m f z ∧
      (resolver.isHit (resolver.run requests) feature zoom = false → f = feature ∧ z = zoom) ∧
      (∀ instruction ∈ answer, ∃ layer ∈ resolver.layersFor z f.view,
        instruction.depth = layer.index ∧
          instruction.Shows (PaintView.opacity ⟨layer.paint, z, f.view⟩)) ∧
      ((∀ layer ∈ resolver.layersFor z f.view,
          let opacity := PaintView.opacity ⟨layer.paint, z, f.view⟩
          (0 ≤ opacity .iconOpacity ∧ opacity .iconOpacity ≤ 1) ∧ ¬1 < opacity .fillOpacity ∧
            ¬1 < opacity .lineOpacity) →
        ∀ instruction ∈ answer, instruction.InRange) := by
  intro answer
  obtain ⟨m, f, z, hlast, hmiss, hdraws⟩ :=
    resolver.exists_draws_resolveAt requests measure feature zoom
  have hshows : ∀ instruction ∈ answer, ∃ layer ∈ resolver.layersFor z f.view,
      instruction.depth = layer.index ∧
        instruction.Shows (PaintView.opacity ⟨layer.paint, z, f.view⟩) := by
    intro instruction hmem
    obtain ⟨layer, hlayer, sketch, hsketch, hyields⟩ := hdraws instruction hmem
    exact ⟨layer, hlayer, hyields.depth_eq,
      hyields.shows colors (PaintView.maySketch_of_mem hsketch)⟩
  refine ⟨m, f, z, hlast, hmiss, hshows, ?_⟩
  intro hrange instruction hmem
  obtain ⟨layer, hlayer, -, hinstruction⟩ := hshows instruction hmem
  obtain ⟨hicon, hfill, hline⟩ := hrange layer hlayer
  exact hinstruction.inRange hicon hfill hline

/-- Places and areas whose opacity is that of the feature. -/
def ownOpacities : Document :=
  let own := Json.object [("type", .string "identity"), ("property", .string "opacity")]
  { version := supportedVersion
    layers := [
      { id := "place", paint := some [("icon-image", .string "dot"), ("icon-opacity", own)] },
      { id := "area", paint := some [("fill-color", .string "black"), ("fill-opacity", own)] }] }

/-- The resolver of these places and areas, for which every color is black. -/
def ownOpacitiesResolver : Resolver :=
  .ofDocument ownOpacities
    { sprite := some ⟨"atlas", [("dot", ⟨0, 0, 8, 8, 1⟩)]⟩
      parse := fun _ => some (.ofBytes 0 0 0 255) }

/-- A place or an area with an opacity. -/
def featureWith (kind : GeometryKind) (opacity : Float) : Feature where
  geometry := ⟨kind, kind = .polygon⟩
  attributes := .ofPairs [("opacity", .number opacity)]

/-- An area of half the opacity is filled with half the alpha. -/
theorem inRange_of_opacities_half :
    let measure : Measurer := fun _ _ => 1
    let half := featureWith .polygon 0.5
    let answer := (ownOpacitiesResolver.resolveAt measure half 10
      (ownOpacitiesResolver.run [])).instructions
    (∀ text color, ownOpacitiesResolver.parse text = some color → color.InRange) ∧
      answer = [.fill ⟨⟨0, 0, 0, 0.5⟩, 1⟩] ∧
      ∀ instruction ∈ answer, instruction.InRange := by
  intro measure half answer
  have colors : ∀ text color, ownOpacitiesResolver.parse text = some color → color.InRange := by
    rintro text color heq
    cases heq
    exact ⟨by decide +kernel, by decide +kernel⟩
  refine ⟨colors, by decide +kernel, ?_⟩
  obtain ⟨m, f, z, -, hmiss, -, hrange⟩ :=
    inRange_of_opacities ownOpacitiesResolver colors [] measure half 10
  obtain ⟨rfl, rfl⟩ := hmiss rfl
  exact hrange (by decide +kernel)

/-- A place and an area of twice the opacity are drawn with an opacity and an alpha of two, though the
alpha of the color is one. -/
theorem not_inRange_twice :
    let options : ResolverOptions :=
      { sprite := ownOpacitiesResolver.sprite, parse := ownOpacitiesResolver.parse }
    let measure : Measurer := fun _ _ => 1
    let marker : Marker := ⟨"atlas", "dot", ⟨0, 0⟩, ⟨8, 8⟩, 1, 0, 2, 0⟩
    let fill : Fill := ⟨⟨0, 0, 0, 2⟩, 1⟩
    build ownOpacities options = .ok ownOpacitiesResolver ∧
      (∀ text color, options.parse text = some color → 0 ≤ color.alpha ∧ color.alpha ≤ 1) ∧
      .marker marker ∈ (ownOpacitiesResolver.resolveAt measure (featureWith .point 2) 10
        .start).instructions ∧
      ¬(0 ≤ marker.opacity ∧ marker.opacity ≤ 1) ∧
      .fill fill ∈ (ownOpacitiesResolver.resolveAt measure (featureWith .polygon 2) 10
        .start).instructions ∧
      ¬(0 < fill.color.alpha ∧ fill.color.alpha ≤ 1) := by
  intro options measure marker fill
  refine ⟨rfl, ?_, by decide +kernel, by decide +kernel, by decide +kernel, by decide +kernel⟩
  rintro text color heq
  cases heq
  exact ⟨by decide +kernel, by decide +kernel⟩

end Resolver

end MapStyling
