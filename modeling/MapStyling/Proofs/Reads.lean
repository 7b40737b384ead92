import MapStyling.Proofs.Filter.Relevance
import MapStyling.Sketch

/-!
# What is read of a feature

A filter reads the attributes of its keys (`Filter.holds_congr`), a property function the one
attribute it may have (`PropertyFunction.evaluate_congr`), and a template those that it names
(`Template.substitute_congr`). On attributes that agree there each gives one answer.

For a whole layer this leaves the templates apart (`PaintView.AgreesWith`): of two views that give
every property one value, the sketches are the same but for the texts of icons and labels, which are
templates with the attributes in place.
-/

namespace MapStyling

/-- Two features have the same attributes under some names: present in both with one value, or
absent in both. -/
def AgreeOn (names : List String) (s t : Attributes) : Prop :=
  ∀ name ∈ names, s name = t name

theorem AgreeOn.mono {names names' : List String} {s t : Attributes} (h : AgreeOn names s t)
    (hsub : ∀ name ∈ names', name ∈ names) : AgreeOn names' s t :=
  fun name hname => h name (hsub name hname)

variable {s t : Attributes}

/-- A filter reads the attributes of its keys alone. -/
theorem Filter.holds_congr (filter : Filter) (h : AgreeOn filter.keys s t) :
    filter.holds s = filter.holds t :=
  filter.holds_congr_of_alike fun key hkey => .inl (h key hkey)

/-- A property function reads the one attribute that it may have. -/
theorem PropertyFunction.evaluate_congr {function : PropertyFunction}
    (h : ∀ name, function.attribute? = some name → s name = t name) (zoom : Float) :
    function.evaluate zoom s = function.evaluate zoom t := by
  match function with
  | .constant value => rfl
  | .zoom kind base stops => rfl
  | .attribute name mode default => simp only [evaluate, h name rfl]

/-- A template reads the attributes that it names. -/
theorem Template.substitute_congr {template : String} (h : AgreeOn (keys template) s t) :
    substitute template s = substitute template t := by
  have hparts : ∀ part ∈ (pieces template).parts,
      String.ofList part.1 ++ display s (String.ofList part.2) =
        String.ofList part.1 ++ display t (String.ofList part.2) := by
    intro part hpart
    have hkey : String.ofList part.2 ∈ keys template := List.mem_map_of_mem hpart
    simp only [display, h _ hkey]
  simp only [substitute, List.map_congr_left hparts]

/-- The text of a value reads the attributes that the value names as a template. -/
theorem renderText_congr {value : Value}
    (h : ∀ template, value = .string template → AgreeOn (Template.keys template) s t) :
    renderText value s = renderText value t := by
  cases value with
  | string template => exact Template.substitute_congr (h template rfl)
  | null => rfl
  | bool b => rfl
  | number x => rfl
  | array items => rfl

/-! ## Layers -/

/-- Two views give every property the same value, if they have one for it. -/
structure PaintView.AgreesWith (view view' : PaintView) : Prop where
  values : ∀ property, view.value? property = view'.value? property

namespace PaintView

variable {view view' : PaintView}

/-- A property is declared if it has a value. -/
theorem declares_eq_isSome (view : PaintView) (property : Property) :
    view.declares property = (view.value? property).isSome := by
  rw [value?, Option.isSome_map]
  rfl

/-- Views of one layer agree if the attributes agree that the functions of the layer read. -/
theorem agreesWith_of_agree (paint : Paint) (zoom : Float)
    (h : ∀ property function, paint.get? property = some function →
      ∀ name, function.attribute? = some name → s name = t name) :
    AgreesWith ⟨paint, zoom, s⟩ ⟨paint, zoom, t⟩ where
  values := by
    intro property
    unfold value?
    cases hfunction : paint.get? property with
    | none => rfl
    | some function =>
      exact congrArg some (function.evaluate_congr (h property function hfunction) zoom)

namespace AgreesWith

theorem declares (h : view.AgreesWith view') (property : Property) :
    view.declares property = view'.declares property := by
  rw [declares_eq_isSome, declares_eq_isSome, h.values]

theorem number? (h : view.AgreesWith view') (property : Property) :
    view.number? property = view'.number? property := by
  simp only [PaintView.number?, h.values]

theorem text? (h : view.AgreesWith view') (property : Property) :
    view.text? property = view'.text? property := by
  simp only [PaintView.text?, h.values]

theorem areaSketches (h : view.AgreesWith view') : view.areaSketches = view'.areaSketches := by
  simp only [PaintView.areaSketches, h.declares, h.number?, h.text?]

theorem lineSketches (h : view.AgreesWith view') : view.lineSketches = view'.lineSketches := by
  have hpen : view.pen = view'.pen := by
    funext width
    simp only [PaintView.pen, h.number?, h.text?, h.values]
  simp only [PaintView.lineSketches, h.declares, h.number?, h.text?, hpen]

theorem circleSketches (h : view.AgreesWith view') :
    view.circleSketches = view'.circleSketches := by
  simp only [PaintView.circleSketches, h.number?, h.text?]

theorem label (h : view.AgreesWith view') : view.label = view'.label := by
  funext text font
  simp only [PaintView.label, h.number?, h.text?, h.values]

/-- Icons are the same if their names come out the same. -/
theorem markerSketches (h : view.AgreesWith view')
    (htext : ∀ image, view.value? .iconImage = some image →
      renderText image view.attributes = renderText image view'.attributes) :
    view.markerSketches = view'.markerSketches := by
  simp only [PaintView.markerSketches, ← h.values, ← h.number?]
  cases himage : view.value? .iconImage with
  | none => rfl
  | some image => rw [Option.map_some, Option.map_some, htext image himage]

/-- Labels are the same if their texts come out the same. -/
theorem labelSketches (h : view.AgreesWith view')
    (htext : ∀ field, view.value? .textField = some field →
      renderText field view.attributes = renderText field view'.attributes) :
    view.labelSketches = view'.labelSketches := by
  have hlabel : view.labelText? = view'.labelText? := by
    unfold labelText?
    rw [← h.values, ← h.text?]
    cases hfield : view.value? .textField with
    | none => rfl
    | some field => simp only [htext field hfield]
  simp only [PaintView.labelSketches, hlabel, h.values, h.label]

end AgreesWith

end PaintView

end MapStyling
