import MapStyling.Proofs.PropertyFunction.Declaration
import MapStyling.Proofs.Resolver.Relevance

/-!
# The fonts of labels

The stacks of fonts that a layer declares are resolved before anything is evaluated, in every output
of the function that has them (`Paint.chooseFonts`). This comes to the same as evaluating the
declared function first: choosing a font goes along with blending (`chooseFont_blend`), and so with
evaluating (`PropertyFunction.evaluate_mapOutputs`).

A stack that a feature passes on from an attribute is no output of the function, and it is resolved
when the label is made, without the list of available fonts. With this exception, the font of every
label is chosen from the value of the declaration (`Resolver.font_of_label`).
-/

namespace MapStyling

/-! ## Choosing a font -/

/-- What a stack of fonts leads to: a text to itself, and an array to the first of its texts that is
available, or to the first of all where none is, and where there is no list. -/
inductive Picks (available : Option (List String)) : Value → String → Prop
  | single (name : String) : Picks available (.string name) name
  | listed {list before after : List String} {name : String} {fonts : List Value}
      (hlist : available = some list) (hfonts : textsOf fonts = before ++ name :: after)
      (hbefore : ∀ other ∈ before, other ∉ list) (hname : name ∈ list) :
      Picks available (.array fonts) name
  | first {after : List String} {name : String} {fonts : List Value}
      (hfonts : textsOf fonts = name :: after)
      (hnone : ∀ list, available = some list → ∀ other ∈ textsOf fonts, other ∉ list) :
      Picks available (.array fonts) name

/-- The first of some names that is available. -/
def firstAvailable? (available : Option (List String)) (names : List String) : Option String :=
  available.bind fun list => names.find? (list.contains ·)

section Choosing

variable {available : Option (List String)} {names : List String} {fonts : List Value}
  {stack : Value} {name : String}

theorem firstAvailable?_eq_some_iff :
    firstAvailable? available names = some name ↔
      ∃ list before after, available = some list ∧ names = before ++ name :: after ∧
        (∀ other ∈ before, other ∉ list) ∧ name ∈ list := by
  simp only [firstAvailable?, Option.bind_eq_some_iff, List.find?_eq_some_iff_append,
    List.contains_iff_mem, Bool.not_eq_true', ← Bool.not_eq_true]
  constructor
  · rintro ⟨list, hlist, hname, before, after, hnames, hbefore⟩
    exact ⟨list, before, after, hlist, hnames, hbefore, hname⟩
  · rintro ⟨list, before, after, hlist, hnames, hbefore, hname⟩
    exact ⟨list, hlist, hname, before, after, hnames, hbefore⟩

theorem firstAvailable?_eq_none_iff :
    firstAvailable? available names = none ↔
      ∀ list, available = some list → ∀ other ∈ names, other ∉ list := by
  simp only [firstAvailable?, Option.bind_eq_none_iff, List.find?_eq_none, List.contains_iff_mem]

theorem chooseFont_array (available : Option (List String)) (fonts : List Value) :
    chooseFont available (.array fonts) =
      (((firstAvailable? available (textsOf fonts)).or (textsOf fonts).head?).map
        Value.string).getD .null := by
  unfold chooseFont firstAvailable?
  dsimp only
  split
  next name h => rw [h]; rfl
  next h => rw [h]; rfl

theorem chooseFont_array_eq_iff :
    chooseFont available (.array fonts) = .string name ↔
      (firstAvailable? available (textsOf fonts)).or (textsOf fonts).head? = some name := by
  rw [chooseFont_array]
  cases (firstAvailable? available (textsOf fonts)).or (textsOf fonts).head? <;> simp

/-- A font is chosen exactly where the stack leads to it. -/
theorem chooseFont_eq_string_iff :
    chooseFont available stack = .string name ↔ Picks available stack name := by
  cases stack with
  | array fonts =>
    rw [chooseFont_array_eq_iff]
    constructor
    · intro h
      cases hfound : firstAvailable? available (textsOf fonts) with
      | some found =>
        obtain rfl : found = name := by simpa [hfound] using h
        obtain ⟨list, before, after, hlist, hfonts, hbefore, hname⟩ :=
          firstAvailable?_eq_some_iff.mp hfound
        exact .listed hlist hfonts hbefore hname
      | none =>
        rw [hfound, Option.none_or] at h
        obtain ⟨after, hfonts⟩ := List.head?_eq_some_iff.mp h
        exact .first hfonts (firstAvailable?_eq_none_iff.mp hfound)
    · intro h
      cases h with
      | listed hlist hfonts hbefore hname =>
        rw [firstAvailable?_eq_some_iff.mpr ⟨_, _, _, hlist, hfonts, hbefore, hname⟩, Option.some_or]
      | first hfonts hnone =>
        rw [firstAvailable?_eq_none_iff.mpr hnone, Option.none_or, hfonts, List.head?_cons]
  | string text =>
    constructor
    · intro h
      cases h
      exact .single _
    · intro h
      cases h
      rfl
  | null | bool _ | number _ => exact ⟨fun h => (nomatch h), fun h => (nomatch h)⟩

/-- Of an array a font is chosen, or there is none in it. -/
theorem chooseFont_array_cases (available : Option (List String)) (fonts : List Value) :
    chooseFont available (.array fonts) = .null ∨
      ∃ name, chooseFont available (.array fonts) = .string name := by
  rw [chooseFont_array]
  cases (firstAvailable? available (textsOf fonts)).or (textsOf fonts).head? with
  | none => exact .inl rfl
  | some name => exact .inr ⟨name, rfl⟩

/-- Nothing is left to choose once a font is chosen. -/
theorem fontName?_chooseFont (available : Option (List String)) (stack : Value) :
    fontName? (chooseFont available stack) = (chooseFont available stack).string? := by
  cases stack with
  | array fonts =>
    rcases chooseFont_array_cases available fonts with h | ⟨name, h⟩
    · rw [h]; rfl
    · rw [h]; rfl
  | null | bool _ | number _ | string _ => rfl

/-- A label takes of a stack the font that is chosen without a list. -/
theorem fontName?_eq_chooseFont_none (stack : Value) :
    fontName? stack = (chooseFont none stack).string? := by
  cases stack with
  | array fonts =>
    rw [chooseFont_array, firstAvailable?, Option.bind_none, Option.none_or]
    show (textsOf fonts).head? = _
    cases (textsOf fonts).head? <;> rfl
  | null | bool _ | number _ | string _ => rfl

/-- There is no font among numbers. -/
theorem chooseFont_numbers (available : Option (List String)) (xs : List Float) :
    chooseFont available (.array (xs.map .number)) = .null := by
  have htexts : textsOf (xs.map .number) = [] := by
    refine List.filterMap_eq_nil_iff.mpr fun v hv => ?_
    obtain ⟨x, -, rfl⟩ := List.mem_map.mp hv
    rfl
  rw [chooseFont_array, htexts]
  cases available <;> rfl

/-- It makes no difference whether a font is chosen before or after blending. -/
theorem chooseFont_blend (available : Option (List String)) (t : Float) (lower upper : Value) :
    Value.blend t (chooseFont available lower) (chooseFont available upper) =
      chooseFont available (Value.blend t lower upper) := by
  cases lower with
  | array vs =>
    have hstays : ∀ w, Value.blend t (chooseFont available (.array vs)) w =
        chooseFont available (.array vs) := by
      intro w
      rcases chooseFont_array_cases available vs with h | ⟨name, h⟩
      · rw [h]; rfl
      · rw [h]; rfl
    rw [hstays]
    cases upper with
    | array ws =>
      unfold Value.blend
      dsimp only
      split
      next xs ys hxs hys =>
        split
        · rw [Value.eq_map_of_numbers? hxs, chooseFont_numbers, ← List.map_zipWith,
            chooseFont_numbers]
        · rfl
      next => rfl
    | null | bool _ | number _ | string _ => rfl
  | number x =>
    cases upper with
    | array ws =>
      rcases chooseFont_array_cases available ws with h | ⟨name, h⟩
      · rw [h]; rfl
      · rw [h]; rfl
    | null | bool _ | number _ | string _ => rfl
  | null | bool _ | string _ => rfl

end Choosing

/-! ## Choosing and evaluating -/

namespace PropertyFunction

variable {f : Value → Value}

/-- The attribute that a function passes on, if it is the identity of one that is there. -/
def passedOn? (function : PropertyFunction) (attributes : Attributes) : Option Value :=
  match function with
  | .attribute name .identity _ => attributes name
  | _ => none

/-- What a function passes on is its value. -/
theorem evaluate_of_passedOn? {function : PropertyFunction} {attributes : Attributes}
    {value : Value} (h : function.passedOn? attributes = some value) (zoom : Float) :
    function.evaluate zoom attributes = value := by
  unfold passedOn? at h
  split at h
  next name default => simp only [evaluate, h, Option.bind_some, ofAttribute, Option.getD_some]
  next => cases h

theorem ofStops_mapStops (hblend : ∀ t v w, Value.blend t (f v) (f w) = f (Value.blend t v w))
    (kind : StopKind) (base : Float) (stops : NumericStops) (x : Float) :
    ofStops kind base (mapStops f stops) x = (ofStops kind base stops x).map f := by
  cases kind with
  | interpolated => exact Stops.interpolate?_map f hblend base x stops
  | piecewise => exact Stops.step?_map f x stops

theorem ofAttribute_mapMode (hblend : ∀ t v w, Value.blend t (f v) (f w) = f (Value.blend t v w))
    {mode : AttributeMode} (hmode : mode ≠ .identity) (input : Value) :
    ofAttribute (mapMode f mode) input = (ofAttribute mode input).map f := by
  cases mode with
  | identity => exact absurd rfl hmode
  | categorical stops =>
    simp only [ofAttribute, mapMode, mapStops, List.find?_map, Option.map_map]
    rfl
  | exponential base stops =>
    simp only [ofAttribute, mapMode, Option.map_bind]
    exact congrArg _ (funext (ofStops_mapStops hblend .interpolated base stops))
  | interval stops =>
    simp only [ofAttribute, mapMode, Option.map_bind]
    exact congrArg _ (funext (ofStops_mapStops hblend .piecewise 1 stops))

/-- A change of the outputs is a change of the value, if it goes along with blending and leaves null
alone. What is passed on from an attribute does not change. -/
theorem evaluate_mapOutputs (hnull : f .null = .null)
    (hblend : ∀ t v w, Value.blend t (f v) (f w) = f (Value.blend t v w))
    (function : PropertyFunction) (zoom : Float) (attributes : Attributes) :
    (function.mapOutputs f).evaluate zoom attributes =
      (function.passedOn? attributes).getD (f (function.evaluate zoom attributes)) := by
  match function with
  | .constant value => rfl
  | .zoom kind base stops =>
    show (ofStops kind base (mapStops f stops) zoom).getD .null =
      f ((ofStops kind base stops zoom).getD .null)
    rw [ofStops_mapStops hblend]
    cases ofStops kind base stops zoom with
    | none => exact hnull.symm
    | some output => rfl
  | .attribute name mode default =>
    have hdefault : (if default.isNull then default else f default) = f default := by
      cases default with
      | null => exact hnull.symm
      | bool _ | number _ | string _ | array _ => rfl
    simp only [mapOutputs, evaluate, hdefault]
    by_cases hmode : mode = .identity
    · subst hmode
      show ((attributes name).bind fun input => some input).getD (f default) =
        (attributes name).getD (f (((attributes name).bind fun input => some input).getD default))
      cases attributes name <;> rfl
    · have hpassed : passedOn? (.attribute name mode default) attributes = none := by
        cases mode with
        | identity => exact absurd rfl hmode
        | exponential _ _ | interval _ | categorical _ => rfl
      rw [hpassed, Option.getD_none, ← Option.getD_map f, Option.map_bind]
      exact congrArg (fun read => ((attributes name).bind read).getD (f default))
        (funext (ofAttribute_mapMode hblend hmode))

/-- The list that the fonts of a function are looked up in: none for what is passed on from an
attribute. -/
def lookedUpIn (function : PropertyFunction) (fonts : Option (List String))
    (attributes : Attributes) : Option (List String) :=
  if (function.passedOn? attributes).isSome then none else fonts

/-- The font of a label is chosen from the value of the declared function. -/
theorem fontName?_mapOutputs (function : PropertyFunction) (fonts : Option (List String))
    (zoom : Float) (attributes : Attributes) :
    fontName? ((function.mapOutputs (chooseFont fonts)).evaluate zoom attributes) =
      (chooseFont (function.lookedUpIn fonts attributes)
        (function.evaluate zoom attributes)).string? := by
  rw [evaluate_mapOutputs rfl (chooseFont_blend fonts), lookedUpIn]
  cases hpassed : function.passedOn? attributes with
  | none => exact fontName?_chooseFont fonts _
  | some value =>
    rw [evaluate_of_passedOn? hpassed]
    exact fontName?_eq_chooseFont_none value

end PropertyFunction

/-! ## Labels -/

namespace PaintView

variable {view : PaintView} {kind : GeometryKind} {sketch : LabelSketch}

/-- Labels come from the text of a layer. -/
theorem mem_labelSketches (h : .label sketch ∈ view.sketches kind) :
    .label sketch ∈ view.labelSketches := by
  have hkind : ∀ {sketches : List Sketch} {kinds : List InstructionKind},
      (sketches.map Sketch.kind).Sublist kinds → .label ∉ kinds → .label sketch ∉ sketches :=
    fun hkinds hnot hmem => hnot (hkinds.subset (List.mem_map_of_mem hmem))
  have hline : .label sketch ∉ view.lineSketches := hkind view.kinds_lineSketches (by decide)
  cases kind with
  | lineString => exact absurd h hline
  | polygon =>
    have harea : .label sketch ∉ view.areaSketches := hkind view.kinds_areaSketches (by decide)
    simpa [sketches, harea, hline] using h
  | point => simpa [sketches, markerSketches, circleSketches] using h

/-- A label has a text, and the font that the value of `text-font` names. -/
theorem eq_label_of_mem (h : .label sketch ∈ view.labelSketches) :
    view.declares .textField = true ∧ (view.value? .textFont).bind fontName? = some sketch.font := by
  unfold labelSketches at h
  split at h
  next text font htext hfont =>
    obtain rfl : sketch = view.label text font := by simpa using h
    refine ⟨?_, hfont⟩
    unfold labelText? value? at htext
    cases hfield : view.paint.get? .textField with
    | none => simp [hfield] at htext
    | some function => simp [declares, Paint.contains, hfield]
  next => cases h

end PaintView

/-- The font of a label is chosen from the value of the `text-font` that its layer declares. -/
theorem Layer.chosen_of_label {layer : Layer} {index : Nat} {fonts : Option (List String)}
    {kind : GeometryKind} {zoom : Float} {attributes : Attributes} {sketch : LabelSketch}
    (h : .label sketch ∈ (layer.compile index fonts).sketches kind zoom attributes) :
    ∃ declaration, (layer.paint.getD []).get? Property.textFont.name = some declaration ∧
      let function := Paint.compileProperty .textFont declaration
      chooseFont (function.lookedUpIn fonts attributes) (function.evaluate zoom attributes) =
        .string sketch.font := by
  obtain ⟨hfield, hfont⟩ := PaintView.eq_label_of_mem (PaintView.mem_labelSketches h)
  have hdeclares : (Paint.ofDeclarations (layer.paint.getD [])).contains .textField = true := by
    have hsame : ((Paint.ofDeclarations (layer.paint.getD [])).chooseFonts fonts).get? .textField =
        (Paint.ofDeclarations (layer.paint.getD [])).get? .textField :=
      Paint.get?_chooseFonts_of_ne (by decide)
    rw [Paint.contains, ← hsame]
    exact hfield
  obtain ⟨value, hvalue, hname⟩ := Option.bind_eq_some_iff.mp hfont
  obtain ⟨function, hfunction, rfl⟩ := Option.map_eq_some_iff.mp hvalue
  replace hfunction : ((Paint.ofDeclarations (layer.paint.getD [])).chooseFonts fonts).get?
      .textFont = some function := hfunction
  rw [Paint.get?_chooseFonts, Paint.get?_ofDeclarations, Option.map_map] at hfunction
  obtain ⟨declaration, hdeclared, rfl⟩ := Option.map_eq_some_iff.mp hfunction
  refine ⟨declaration, hdeclared, Value.eq_string_of_string? ?_⟩
  rw [← PropertyFunction.fontName?_mapOutputs]
  simpa [hdeclares] using hname

namespace Resolver

variable {document : Document} {options : ResolverOptions} {resolver : Resolver}
  {measure : Measurer} {feature : Feature} {zoom : Float}

/-- A label is drawn from a sketch of the layer at its depth. -/
theorem exists_sketch_of_label (built : build document options = .ok resolver) {label : Label}
    (h : .label label ∈ resolver.instructionsOf measure feature zoom) :
    ∃ layer sketch, (layer, label.depth) ∈ document.prepared options.selection ∧
      .label sketch ∈ (layer.compile label.depth options.fonts).sketches feature.geometry.kind zoom
        feature.view ∧
      label = sketch.draw (resolver.materials measure) label.depth := by
  obtain ⟨compiled, hcompiled, hlabel⟩ := List.mem_flatMap.mp h
  obtain ⟨sketch, hsketch, hdraw⟩ := List.mem_filterMap.mp hlabel
  have hlayer := mem_of_mem_layersFor built hcompiled
  rw [(eq_of_build built).1] at hlayer
  obtain ⟨⟨layer, index⟩, hprepared, rfl⟩ := List.mem_map.mp hlayer
  have hkind := (Sketch.kind_depth_draw? hdraw).1
  cases sketch with
  | label sketch =>
    cases hdraw
    exact ⟨layer, sketch, hprepared, hsketch, rfl⟩
  | fill _ _ | stroke _ _ _ | marker _ _ _ _ | circle _ _ _ => cases hkind

/-- The font of every label of a run is chosen from the value that the `text-font` of its layer has
for the feature that the label was made for: a text itself, and of an array the first font that is
available, or else the first. An array that is passed on from an attribute of the feature is not
looked up in the list of available fonts. -/
theorem font_of_label (built : build document options = .ok resolver) {requests : List Request}
    (alike : ∀ request ∈ requests, request.MeasuredBy measure)
    (computed : resolver.LastComputed requests measure feature zoom) {label : Label}
    (hlabel : .label label ∈ (resolver.run requests).instructions) :
    ∃ layer sketch declaration, (layer, label.depth) ∈ document.prepared options.selection ∧
      .label sketch ∈ (layer.compile label.depth options.fonts).sketches feature.geometry.kind zoom
        feature.view ∧
      label = sketch.draw (resolver.materials measure) label.depth ∧
      (layer.paint.getD []).get? Property.textFont.name = some declaration ∧
      let function := Paint.compileProperty .textFont declaration
      let value := function.evaluate zoom feature.view
      let available := function.lookedUpIn options.fonts feature.view
      chooseFont available value = .string sketch.font ∧ Picks available value sketch.font := by
  rw [instructions_of_lastComputed alike computed] at hlabel
  obtain ⟨layer, sketch, hprepared, hsketch, hdraw⟩ := exists_sketch_of_label built hlabel
  obtain ⟨declaration, hdeclared, hchosen⟩ := layer.chosen_of_label hsketch
  exact ⟨layer, sketch, declaration, hprepared, hsketch, hdraw, hdeclared, hchosen,
    chooseFont_eq_string_iff.mp hchosen⟩

/-- Roads with a stack of fonts for each range of zoom levels, and places that have their own. -/
def stackedLabels : Document where
  version := supportedVersion
  layers := [
    { id := "road"
      layout := some [("text-field", .string "x"),
        ("text-font", .object [("stops", .array [
          .array [.number (.integer 0), .array [.string "A", .string "B"]],
          .array [.number (.integer 12), .array [.string "C", .string "A"]]])])] },
    { id := "place"
      layout := some [("text-field", .string "x"),
        ("text-font", .object [("type", .string "identity"), ("property", .string "fonts")])] }]

/-- The options by which only one font is available. -/
def oneFont : ResolverOptions where
  fonts := some ["B"]
  parse := fun _ => none

/-- The resolver of these layers. -/
def stackedResolver : Resolver := .ofDocument stackedLabels oneFont

/-- A place with a stack of fonts. -/
def stackedPlace : Feature where
  geometry := ⟨.point, false⟩
  attributes := .ofPairs [("fonts", .array [.string "A", .string "B"])]

/-- The label of the road is written in the font that is available. -/
theorem font_of_label_stacked :
    let measure : Measurer := fun _ _ => 1
    let requests : List Request := [.resolve measure stackedPlace 10]
    let label : Label := { text := "x", font := "normal 400 16px B" }
    build stackedLabels oneFont = .ok stackedResolver ∧
      (∀ request ∈ requests, request.MeasuredBy measure) ∧
      stackedResolver.LastComputed requests measure stackedPlace 10 ∧
      .label label ∈ (stackedResolver.run requests).instructions ∧
      ∃ layer sketch declaration, (layer, 0) ∈ stackedLabels.prepared .all ∧
        .label sketch ∈ (layer.compile 0 (some ["B"])).sketches .point 10 stackedPlace.view ∧
        label = sketch.draw (stackedResolver.materials measure) 0 ∧
        (layer.paint.getD []).get? "text-font" = some declaration ∧
        let function := Paint.compileProperty .textFont declaration
        let value := function.evaluate 10 stackedPlace.view
        let available := function.lookedUpIn (some ["B"]) stackedPlace.view
        chooseFont available value = .string sketch.font ∧ Picks available value sketch.font := by
  intro measure requests label
  have built : build stackedLabels oneFont = .ok stackedResolver := rfl
  have alike : ∀ request ∈ requests, request.MeasuredBy measure := by
    intro request h
    rw [List.mem_singleton.mp h]
    rfl
  have computed : stackedResolver.LastComputed requests measure stackedPlace 10 :=
    ⟨[], [], rfl, isHit_start _ _ _, List.not_mem_nil, fun _ _ _ _ _ h => by simp at h⟩
  have hlabel : .label label ∈ (stackedResolver.run requests).instructions := by decide +kernel
  exact ⟨built, alike, computed, hlabel, font_of_label built alike computed hlabel⟩

/-- The label of the place is not: its stack, looked up in the list, would lead to the font that is
available, but the first of the stack is used. -/
theorem font_of_label_passedOn :
    let declaration : Json :=
      .object [("type", .string "identity"), ("property", .string "fonts")]
    let value := (Paint.compileProperty .textFont declaration).evaluate 10 stackedPlace.view
    let label : Label := { text := "x", font := fontCss "A" 16, depth := 1 }
    build stackedLabels oneFont = .ok stackedResolver ∧
      ((stackedLabels.layers[1]?.bind (·.layout)).bind (·.get? "text-font")) = some declaration ∧
      .label label ∈
        (stackedResolver.resolveAt (fun _ _ => 1) stackedPlace 10 .start).instructions ∧
      chooseFont oneFont.fonts value = .string "B" ∧ Picks oneFont.fonts value "B" ∧
      label.font ≠ fontCss "B" 16 := by
  intro declaration value label
  have hchosen : chooseFont oneFont.fonts value = .string "B" := rfl
  exact ⟨rfl, rfl, by decide +kernel, hchosen, chooseFont_eq_string_iff.mp hchosen,
    by decide +kernel⟩

end Resolver

end MapStyling
