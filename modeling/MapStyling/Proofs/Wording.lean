import Mathlib.Data.List.Basic
import MapStyling.Proofs.Reads
import MapStyling.Sketch.Drawn

/-!
# What instructions say

The wording of an instruction is what a template may have a part in: the name of an icon, the text
of a label (`Instruction.wording`). If two views of a layer agree on every property, then the
wordings of what is drawn settle all of it (`PaintView.drawn_eq_of_wordings_eq`).

Which attributes have a part in a wording can be told beforehand: those that the present texts of
icons and labels name (`PaintView.templateNames`).
-/

namespace MapStyling

/-- What an instruction says, with its depth and kind. -/
def Instruction.wording : Instruction → Option (Nat × InstructionKind × String)
  | .marker style => some (style.depth, .marker, style.icon)
  | .label style => some (style.depth, .label, style.text)
  | .fill _ | .stroke _ | .circle _ => none

/-- What some instructions say. -/
def wordings (instructions : List Instruction) : List (Nat × InstructionKind × String) :=
  instructions.filterMap Instruction.wording

theorem wordings_append (is js : List Instruction) :
    wordings (is ++ js) = wordings is ++ wordings js :=
  List.filterMap_append

/-- The wording of an instruction has its depth. -/
theorem Instruction.depth_of_wording {i : Instruction} {said : Nat × InstructionKind × String}
    (h : i.wording = some said) : said.1 = i.depth := by
  cases i with
  | marker style => cases h; rfl
  | label style => cases h; rfl
  | fill style => cases h
  | stroke style => cases h
  | circle style => cases h

/-- The properties whose texts are templates, for features of a kind of geometry. -/
def GeometryKind.templates : GeometryKind → List Property
  | .polygon => [.textField]
  | .lineString => []
  | .point => [.iconImage, .textField]

theorem GeometryKind.mem_templates {kind : GeometryKind} {property : Property}
    (h : property ∈ kind.templates) : property = .iconImage ∨ property = .textField := by
  cases kind <;> simp [templates] at h <;> simp [h]

/-! ## Icons and labels -/

/-- The place of an icon is known by the name of the icon. -/
theorem Materials.placement?_icon {materials : Materials} {icon : String} {place : Placement}
    (h : materials.placement? icon = some place) : place.icon = icon := by
  simp only [placement?, Option.bind_eq_bind, Option.bind_eq_some_iff] at h
  obtain ⟨atlas, -, entry, -, heq⟩ := h
  cases heq
  rfl

namespace PaintView

variable {view view' : PaintView} {materials : Materials} {depth : Nat} {kind : GeometryKind}

/-- What a layer draws of a feature of some kind. -/
def drawn (materials : Materials) (depth : Nat) (view : PaintView) (kind : GeometryKind) :
    List Instruction :=
  (view.sketches kind).filterMap (Sketch.draw? materials depth)

/-- The icon that is drawn, if there is one. -/
def marker? (materials : Materials) (depth : Nat) (view : PaintView) : Option Marker :=
  ((view.value? .iconImage).bind fun image =>
    materials.placement? (renderText image view.attributes)).map fun place =>
      place.marker ((view.number? .iconSize).getD 1) ((view.number? .iconRotate).getD 0)
        ((view.number? .iconOpacity).getD 1) depth

/-- The label that is drawn, if there is one. -/
def label? (materials : Materials) (depth : Nat) (view : PaintView) : Option Label :=
  view.labelText?.bind fun text =>
    ((view.value? .textFont).bind fontName?).map fun font =>
      (view.label text font).draw materials depth

theorem filterMap_markerSketches (view : PaintView) :
    view.markerSketches.filterMap (Sketch.draw? materials depth) =
      ((view.marker? materials depth).map Instruction.marker).toList := by
  unfold markerSketches marker?
  cases view.value? .iconImage with
  | none => rfl
  | some image =>
    simp only [Option.map_some, Option.toList_some, Option.bind_some, Sketch.draw?,
      List.filterMap_cons, List.filterMap_nil]
    cases materials.placement? (renderText image view.attributes) <;> rfl

theorem filterMap_labelSketches (view : PaintView) :
    view.labelSketches.filterMap (Sketch.draw? materials depth) =
      ((view.label? materials depth).map Instruction.label).toList := by
  unfold labelSketches label?
  cases view.labelText? with
  | none => rfl
  | some text => cases (view.value? .textFont).bind fontName? <;> rfl

/-- Circles say nothing. -/
theorem wordings_circleSketches (view : PaintView) :
    wordings (view.circleSketches.filterMap (Sketch.draw? materials depth)) = [] := by
  unfold circleSketches
  cases view.number? .circleRadius <;> rfl

/-- Icons that say the same are the same. -/
theorem marker?_eq (h : view.AgreesWith view')
    (hicon : (view.marker? materials depth).map (·.icon) =
      (view'.marker? materials depth).map (·.icon)) :
    view.marker? materials depth = view'.marker? materials depth := by
  simp only [marker?, ← h.number?, ← h.values, Option.map_map] at hicon ⊢
  cases himage : view.value? .iconImage with
  | none => rfl
  | some image =>
    rw [himage, Option.bind_some, Option.bind_some] at hicon
    rw [Option.bind_some, Option.bind_some]
    cases hplace : materials.placement? (renderText image view.attributes) with
    | none =>
      rw [hplace, Option.map_none, eq_comm, Option.map_eq_none_iff] at hicon
      rw [hicon]
    | some place =>
      rw [hplace, Option.map_some, eq_comm, Option.map_eq_some_iff] at hicon
      obtain ⟨place', hplace', hsame⟩ := hicon
      have hname : renderText image view'.attributes = renderText image view.attributes :=
        (Materials.placement?_icon hplace').symm.trans
          (Eq.trans hsame (Materials.placement?_icon hplace))
      rw [hname, hplace]

/-- A label is settled by the text it comes out with. -/
theorem draw_label_eq (view : PaintView) {text text' font : String}
    (h : ((view.label text font).draw materials depth).text =
      ((view.label text' font).draw materials depth).text) :
    (view.label text font).draw materials depth = (view.label text' font).draw materials depth := by
  simp only [LabelSketch.draw, label] at h ⊢
  rw [h]
  rfl

/-- Labels that say the same are the same. -/
theorem label?_eq (h : view.AgreesWith view')
    (htext : (view.label? materials depth).map (·.text) =
      (view'.label? materials depth).map (·.text)) :
    view.label? materials depth = view'.label? materials depth := by
  simp only [label?, ← h.values, ← h.label] at htext ⊢
  cases hfont : (view.value? .textFont).bind fontName? with
  | none => simp
  | some font =>
    simp only [hfont, Option.map_some] at htext ⊢
    cases hold : view.labelText? with
    | none =>
      cases hnew : view'.labelText? with
      | none => rfl
      | some text' => simp [hold, hnew] at htext
    | some text =>
      cases hnew : view'.labelText? with
      | none => simp [hold, hnew] at htext
      | some text' =>
        simp only [hold, hnew, Option.bind_some, Option.map_some, Option.some.injEq] at htext
        exact congrArg some (draw_label_eq view htext)

/-! ## Layers -/

/-- Labels with the same wordings say the same. -/
theorem text_of_wordings_eq {label label' : Option Label}
    (h : wordings (label.map Instruction.label).toList =
      wordings (label'.map Instruction.label).toList) :
    label.map (·.text) = label'.map (·.text) := by
  cases label <;> cases label' <;> simp_all [wordings, Instruction.wording]

/-- An icon and a label say what they say apart, for their kinds are part of the wordings. -/
theorem icon_text_of_wordings_eq {marker marker' : Option Marker} {label label' : Option Label}
    (h : wordings (marker.map Instruction.marker).toList ++
        wordings (label.map Instruction.label).toList =
      wordings (marker'.map Instruction.marker).toList ++
        wordings (label'.map Instruction.label).toList) :
    marker.map (·.icon) = marker'.map (·.icon) ∧ label.map (·.text) = label'.map (·.text) := by
  cases marker <;> cases marker' <;> cases label <;> cases label' <;>
    simp_all [wordings, Instruction.wording]

/-- Views that agree on every property and say the same draw the same. -/
theorem drawn_eq_of_wordings_eq (h : view.AgreesWith view')
    (hwordings : wordings (view.drawn materials depth kind) =
      wordings (view'.drawn materials depth kind)) :
    view.drawn materials depth kind = view'.drawn materials depth kind := by
  cases kind with
  | lineString => simp only [drawn, sketches, h.lineSketches]
  | polygon =>
    simp only [drawn, sketches, List.filterMap_append, filterMap_labelSketches, wordings_append,
      h.areaSketches, h.lineSketches, List.append_cancel_left_eq] at hwordings ⊢
    rw [label?_eq h (text_of_wordings_eq hwordings)]
  | point =>
    simp only [drawn, sketches, List.filterMap_append, filterMap_labelSketches,
      filterMap_markerSketches, wordings_append, wordings_circleSketches,
      List.append_nil] at hwordings ⊢
    obtain ⟨hicon, htext⟩ := icon_text_of_wordings_eq hwordings
    rw [marker?_eq h hicon, label?_eq h htext, h.circleSketches]

/-! ## Templates -/

/-- The attributes that the texts of icons and labels name. -/
def templateNames (view : PaintView) (kind : GeometryKind) : List String :=
  (kind.templates.filterMap view.text?).flatMap Template.keys

theorem mem_templateNames {name : String} :
    name ∈ view.templateNames kind ↔
      ∃ property ∈ kind.templates, ∃ text, view.text? property = some text ∧
        name ∈ Template.keys text := by
  simp only [templateNames, List.mem_flatMap, List.mem_filterMap]
  constructor
  · rintro ⟨text, ⟨property, hproperty, htext⟩, hname⟩
    exact ⟨property, hproperty, text, htext, hname⟩
  · rintro ⟨property, hproperty, text, htext, hname⟩
    exact ⟨text, ⟨property, hproperty, htext⟩, hname⟩

theorem renderText_eq {property : Property} (hproperty : property ∈ kind.templates)
    (hnames : AgreeOn (view.templateNames kind) view.attributes view'.attributes) (value : Value)
    (hvalue : view.value? property = some value) :
    renderText value view.attributes = renderText value view'.attributes := by
  refine renderText_congr fun template htemplate key hkey => hnames key ?_
  have htext : view.text? property = some template := by
    rw [text?, hvalue, htemplate]
    rfl
  exact mem_templateNames.mpr ⟨property, hproperty, template, htext, hkey⟩

/-- Views that agree on every property and on the attributes that their texts name draw the same. -/
theorem sketches_eq (h : view.AgreesWith view')
    (hnames : AgreeOn (view.templateNames kind) view.attributes view'.attributes) :
    view.sketches kind = view'.sketches kind := by
  cases kind with
  | lineString => exact h.lineSketches
  | polygon =>
    have hlabel := h.labelSketches (renderText_eq (by simp [GeometryKind.templates]) hnames)
    simp only [sketches, h.areaSketches, h.lineSketches, hlabel]
  | point =>
    have hmarker := h.markerSketches (renderText_eq (by simp [GeometryKind.templates]) hnames)
    have hlabel := h.labelSketches (renderText_eq (by simp [GeometryKind.templates]) hnames)
    simp only [sketches, hmarker, h.circleSketches, hlabel]

end PaintView

end MapStyling
