import MapStyling.Proofs.Stops
import MapStyling.Sheet

/-!
# What property functions hold

The outputs of a property function (`PropertyFunction.outputs`) are the values that it was compiled
with. Each is written in the declaration, or is the fallback, or null
(`PropertyFunction.mem_outputs_compile`). A text that the function gives is one of its outputs, or
the attribute that the identity passes on (`PropertyFunction.evaluate_eq_string`).

So the names in the texts of a declaration, which are collected without evaluating anything, are the
names in all the texts that its function gives, but for those passed on.
-/

namespace MapStyling

/-! ## Names in declarations -/

namespace Template

theorem mem_keysInItems {key : String} {items : List Json} :
    key ∈ keysInItems items ↔ ∃ json ∈ items, key ∈ keysIn json := by
  induction items with
  | nil => simp [keysInItems]
  | cons json items ih => simp [keysInItems, ih]

theorem mem_keysInMembers {key : String} {members : Keyed Json} :
    key ∈ keysInMembers members ↔ ∃ entry ∈ members, key ∈ keysIn entry.2 := by
  induction members with
  | nil => simp [keysInMembers]
  | cons entry members ih => simp [keysInMembers, ih]

/-- What a member names, the object names. -/
theorem mem_keysIn_of_member {key name : String} {members : Keyed Json} {json : Json}
    (hmember : members.get? name = some json) (hkey : key ∈ keysIn json) :
    key ∈ keysIn (.object members) :=
  mem_keysInMembers.mpr ⟨(name, json), Keyed.mem_of_get? hmember, hkey⟩

/-- What an item names, the array names. -/
theorem mem_keysIn_of_item {key : String} {items : List Json} {json : Json} (hitem : json ∈ items)
    (hkey : key ∈ keysIn json) : key ∈ keysIn (.array items) :=
  mem_keysInItems.mpr ⟨json, hitem, hkey⟩

end Template

theorem Json.eq_array_of_array? {json : Json} {items : List Json} (h : json.array? = some items) :
    json = .array items := by
  cases json with
  | array other => cases h; rfl
  | null => cases h
  | bool b => cases h
  | number n => cases h
  | string text => cases h
  | object members => cases h

theorem Value.eq_string_of_string? {value : Value} {text : String} (h : value.string? = some text) :
    value = .string text := by
  cases value with
  | string other => cases h; rfl
  | null => cases h
  | bool b => cases h
  | number x => cases h
  | array items => cases h

theorem Value.eq_string_of_ofJson {json : Json} {text : String} (h : ofJson json = .string text) :
    json = .string text := by
  cases json with
  | string other => cases h; rfl
  | null => cases h
  | bool b => cases h
  | number n => cases h
  | array items => cases h
  | object members => cases h

/-! ## Outputs -/

/-- The values that a mode leads to, but for the attribute that the identity passes on. -/
def AttributeMode.outputs : AttributeMode → List Value
  | .exponential _ stops | .interval stops => stops.map (·.2)
  | .categorical stops => stops.map (·.2)
  | .identity => []

namespace PropertyFunction

/-- The values that a function was compiled with: its constant, the outputs of its stops, its
default. -/
def outputs : PropertyFunction → List Value
  | .constant value => [value]
  | .zoom _ _ stops => stops.map (·.2)
  | .attribute _ mode default => default :: mode.outputs

/-! ### What is evaluated -/

/-- Two values that blend into a text are not mixed. -/
theorem eq_of_blend_eq_string {t : Float} {lower upper : Value} {text : String}
    (h : Value.blend t lower upper = .string text) : lower = .string text := by
  unfold Value.blend at h
  split at h
  · cases h
  · split at h
    · split at h
      · cases h
      · cases h
    · cases h
  · exact h

theorem mem_of_ofStops {kind : StopKind} {base x : Float} {stops : NumericStops} {text : String}
    (h : ofStops kind base stops x = some (.string text)) : .string text ∈ stops.map (·.2) := by
  cases kind with
  | piecewise => exact Stops.mem_of_step? h
  | interpolated =>
    rcases Stops.mem_or_blend_of_interpolate? h with hmem | ⟨t, lower, hlower, upper, -, hblend⟩
    · exact hmem
    · rw [← eq_of_blend_eq_string hblend.symm]
      exact hlower

theorem mem_of_ofAttribute {mode : AttributeMode} {input : Value} {text : String}
    (h : ofAttribute mode input = some (.string text)) :
    .string text ∈ mode.outputs ∨ mode = .identity ∧ input = .string text := by
  cases mode with
  | exponential base stops =>
    obtain ⟨x, -, hx⟩ := Option.bind_eq_some_iff.mp h
    exact .inl (mem_of_ofStops hx)
  | interval stops =>
    obtain ⟨x, -, hx⟩ := Option.bind_eq_some_iff.mp h
    exact .inl (mem_of_ofStops hx)
  | categorical stops =>
    obtain ⟨stop, hfind, hstop⟩ := Option.map_eq_some_iff.mp h
    rw [← hstop]
    exact .inl (List.mem_map_of_mem (List.mem_of_find?_eq_some hfind))
  | identity =>
    cases h
    exact .inr ⟨rfl, rfl⟩

/-- A text that a function gives is one of its outputs, or the attribute that it passes on. -/
theorem evaluate_eq_string {function : PropertyFunction} {zoom : Float} {attributes : Attributes}
    {text : String} (h : function.evaluate zoom attributes = .string text) :
    .string text ∈ function.outputs ∨
      ∃ name default, function = .attribute name .identity default ∧
        attributes name = some (.string text) := by
  match function with
  | .constant value => exact .inl (h ▸ List.mem_cons_self)
  | .zoom kind base stops =>
    simp only [evaluate] at h
    cases hstops : ofStops kind base stops zoom with
    | none => rw [hstops] at h; cases h
    | some value =>
      rw [hstops, Option.getD_some] at h
      subst h
      exact .inl (mem_of_ofStops hstops)
  | .attribute name mode default =>
    simp only [evaluate] at h
    cases houtput : (attributes name).bind (ofAttribute mode) with
    | none =>
      rw [houtput, Option.getD_none] at h
      exact .inl (h ▸ List.mem_cons_self)
    | some value =>
      rw [houtput, Option.getD_some] at h
      subst h
      obtain ⟨input, hinput, hvalue⟩ := Option.bind_eq_some_iff.mp houtput
      rcases mem_of_ofAttribute hvalue with hmem | ⟨rfl, rfl⟩
      · exact .inl (List.mem_cons_of_mem _ hmem)
      · exact .inr ⟨name, default, rfl, hinput⟩

/-! ### What is compiled -/

/-- A value is written in a declaration, by JSON that names nothing the declaration does not name.
-/
def WrittenIn (declaration : Json) (value : Value) : Prop :=
  ∃ json, value = .ofJson json ∧ ∀ key ∈ Template.keysIn json, key ∈ Template.keysIn declaration

/-- A text that is written in a declaration names nothing that the declaration does not name. -/
theorem WrittenIn.mem_keysIn {declaration : Json} {text key : String}
    (h : WrittenIn declaration (.string text)) (hkey : key ∈ Template.keys text) (hne : key ≠ "") :
    key ∈ Template.keysIn declaration := by
  obtain ⟨json, hvalue, hsub⟩ := h
  rw [Value.eq_string_of_ofJson hvalue.symm] at hsub
  exact hsub key (by simp [Template.keysIn, hkey, hne])

/-- The empty name is the exception: a template may have it, and it is not collected. -/
example : Template.keys "\x7b\x7d" = [""] ∧ Template.keysIn (.string "\x7b\x7d") = [] := by
  decide +kernel

theorem exists_stop_of_mem_ofJson {declared : List Json} {value : Value}
    (h : value ∈ (NumericStops.ofJson declared).map (·.2)) :
    ∃ input output, .array [input, output] ∈ declared ∧ value = .ofJson output := by
  obtain ⟨stop, hstop, rfl⟩ := List.mem_map.mp h
  obtain ⟨json, hjson, hread⟩ :=
    List.mem_filterMap.mp ((Stops.ordered_perm totalRank _).mem_iff.mp hstop)
  unfold NumericStops.stop? at hread
  split at hread
  · obtain ⟨x, -, rfl⟩ := Option.map_eq_some_iff.mp hread
    exact ⟨_, _, hjson, rfl⟩
  · cases hread

theorem exists_stop_of_mem_categories {declared : List Json} {value : Value}
    (h : value ∈ (declared.filterMap categoryStop?).map (·.2)) :
    ∃ input output, .array [input, output] ∈ declared ∧ value = .ofJson output := by
  obtain ⟨stop, hstop, rfl⟩ := List.mem_map.mp h
  obtain ⟨json, hjson, hread⟩ := List.mem_filterMap.mp hstop
  unfold categoryStop? at hread
  split at hread
  · cases hread
    exact ⟨_, _, hjson, rfl⟩
  · cases hread

theorem exists_stop_of_mem_mode {type : Option String} {kind : StopKind} {base : Float}
    {declared : List Json} {value : Value}
    (h : value ∈ (mode type kind base declared).outputs) :
    ∃ input output, .array [input, output] ∈ declared ∧ value = .ofJson output := by
  unfold mode at h
  split at h
  · cases h
  · exact exists_stop_of_mem_categories h
  · exact exists_stop_of_mem_ofJson h
  · exact exists_stop_of_mem_ofJson h
  · exact exists_stop_of_mem_ofJson h

/-- What a stop names, the object with the stops names. -/
theorem mem_keysIn_of_stop {members : Keyed Json} {input output : Json} {key : String}
    (hitem : .array [input, output] ∈ ((members.get? "stops").bind Json.array?).getD [])
    (hkey : key ∈ Template.keysIn output) : key ∈ Template.keysIn (.object members) := by
  cases hitems : (members.get? "stops").bind Json.array? with
  | none =>
    rw [hitems] at hitem
    cases hitem
  | some items =>
    rw [hitems, Option.getD_some] at hitem
    obtain ⟨json, hmember, harray⟩ := Option.bind_eq_some_iff.mp hitems
    rw [Json.eq_array_of_array? harray] at hmember
    have hpair : key ∈ Template.keysIn (.array [input, output]) :=
      Template.mem_keysIn_of_item (by simp) hkey
    exact Template.mem_keysIn_of_member hmember (Template.mem_keysIn_of_item hitem hpair)

/-- The default of an object is its own, or else the fallback, or else null. -/
theorem default_cases (members : Keyed Json) (fallback : Option Value) :
    let default := (((members.get? "default").map Value.ofJson).or fallback).getD .null
    some default = fallback ∨ default = .null ∨ WrittenIn (.object members) default := by
  intro default
  cases hmember : members.get? "default" with
  | some json =>
    refine .inr (.inr ⟨json, ?_, fun key => Template.mem_keysIn_of_member hmember⟩)
    simp [default, hmember]
  | none =>
    cases fallback with
    | none => exact .inr (.inl (by simp [default, hmember]))
    | some value => exact .inl (by simp [default, hmember])

theorem mem_outputs_compileObject {members : Keyed Json} {kind : StopKind}
    {fallback : Option Value} {value : Value}
    (h : value ∈ (compileObject members kind fallback).outputs) :
    some value = fallback ∨ value = .null ∨ WrittenIn (.object members) value := by
  have hdefault := default_cases members fallback
  have hstop : (∃ input output,
        Json.array [input, output] ∈ ((members.get? "stops").bind Json.array?).getD [] ∧
          value = .ofJson output) → WrittenIn (.object members) value := by
    rintro ⟨input, output, hitem, rfl⟩
    exact ⟨output, rfl, fun key => mem_keysIn_of_stop hitem⟩
  simp only [compileObject] at h
  split at h
  · rcases List.mem_cons.mp h with rfl | hmode
    · exact hdefault
    · exact .inr (.inr (hstop (exists_stop_of_mem_mode hmode)))
  · split at h
    · rw [List.mem_singleton.mp h]
      exact hdefault
    · exact .inr (.inr (hstop (exists_stop_of_mem_ofJson h)))

/-- Each output of a function is the fallback of its property, null, or written in the
declaration. -/
theorem mem_outputs_compile {declaration : Json} {kind : StopKind} {fallback : Option Value}
    {value : Value} (h : value ∈ (compile declaration kind fallback).outputs) :
    some value = fallback ∨ value = .null ∨ WrittenIn declaration value := by
  cases declaration with
  | object members => exact mem_outputs_compileObject h
  | null => exact .inr (.inl (List.mem_singleton.mp h))
  | bool b => exact .inr (.inr ⟨_, List.mem_singleton.mp h, fun _ hkey => hkey⟩)
  | number n => exact .inr (.inr ⟨_, List.mem_singleton.mp h, fun _ hkey => hkey⟩)
  | string text => exact .inr (.inr ⟨_, List.mem_singleton.mp h, fun _ hkey => hkey⟩)
  | array items => exact .inr (.inr ⟨_, List.mem_singleton.mp h, fun _ hkey => hkey⟩)

end PropertyFunction

end MapStyling
