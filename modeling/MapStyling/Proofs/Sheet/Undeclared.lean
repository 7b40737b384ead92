import MapStyling.Proofs.Sheet.Preparation
import MapStyling.Proofs.Value.Literal

/-!
# Properties that are not declared

A property that a layer does not mention is declared for it: its default is written as a literal among
the declarations of the layer, and compiled as they are. No value is written as an object, so it is
compiled to a constant and not to a function of stops, and the defaults are finite, so this constant is
the default (`Layer.compile_keeps_defaults`). Whatever else the layer declares makes no difference, but
that of the stack of fonts one is chosen where there are labels.
-/

namespace MapStyling

/-! ## Literals as declarations -/

/-- A value is never written as a function. -/
theorem PropertyFunction.compile_toJson (value : Value) (kind : StopKind) (fallback : Option Value) :
    compile value.toJson kind fallback = .constant (.ofJson value.toJson) := by
  cases value with
  | number x =>
    rw [Value.toJson]
    split <;> rfl
  | null | bool _ | string _ | array _ => rfl

/-- A literal is compiled to the value that it writes, for properties of every kind. -/
theorem Paint.compileProperty_toJson (property : Property) (value : Value) :
    compileProperty property value.toJson = .constant (.ofJson value.toJson) := by
  unfold compileProperty
  split
  · exact PropertyFunction.compile_toJson value _ _
  · rfl

/-- The numbers of the defaults are finite. -/
theorem Property.isFinite_of_default? {property : Property} {value : Value}
    (h : property.default? = some value) : value.IsFinite := by
  cases property <;> cases h <;> simp <;> rfl

namespace Layer

/-- A layer mentions a property, in its paint or in the layout that is merged into it. -/
def mentions (layer : Layer) (property : Property) : Bool :=
  (layer.paint.getD []).contains property.name || layer.mergedLayout.contains property.name

theorem contains_written (layer : Layer) (property : Property) :
    layer.written.contains property.name = layer.mentions property :=
  contains_foldl_mergeEntry _ _ _

/-- A property that is not mentioned is declared as the literal of its default. -/
theorem get?_declarations_of_not_mentions {layer : Layer} {property : Property}
    (h : layer.mentions property = false) :
    layer.declarations.get? property.name = property.default?.map Value.toJson := by
  rw [← contains_written, Keyed.contains, Option.isSome_eq_false_iff, Option.isNone_iff_eq_none] at h
  rw [get?_declarations, h, Option.none_or]

/-- There are labels exactly where a text is mentioned, since there is no default for it. -/
theorem contains_textField (layer : Layer) :
    (Paint.ofDeclarations layer.declarations).contains .textField = layer.mentions .textField := by
  rw [Paint.contains, Paint.get?_ofDeclarations, Option.isSome_map, get?_declarations,
    ← contains_written, Keyed.contains]
  exact congrArg Option.isSome Option.or_none

/-- The function of a property that is not mentioned is the constant default. -/
theorem get?_compile_of_not_mentions {layer : Layer} {property : Property} {default : Value}
    (hdefault : property.default? = some default) (h : layer.mentions property = false)
    (index : Nat) (fonts : Option (List String)) :
    (layer.normalize.compile index fonts).paint.get? property =
      some (.constant (if property = .textFont ∧ layer.mentions .textField = true then
        chooseFont fonts default else default)) := by
  have hliteral : Value.ofJson default.toJson = default :=
    (Value.ofJson_toJson_iff default).mpr (Property.isFinite_of_default? hdefault)
  rw [paint_compile_normalize, Paint.get?_chooseFonts, Paint.get?_ofDeclarations,
    get?_declarations_of_not_mentions h, hdefault, contains_textField, Option.map_some,
    Option.map_some, Option.map_some, Paint.compileProperty_toJson, hliteral]
  by_cases hfont : layer.mentions .textField = true ∧ property = .textFont
  · rw [if_pos hfont, if_pos hfont.symm]
    rfl
  · rw [if_neg hfont, if_neg fun hfont' => hfont hfont'.symm]

/-- Defaults are kept, in two parts.
1. A value comes back from its literal as it was, bit for bit, exactly if all numbers in it are finite.
2. A property with a default that a layer does not mention is compiled to a function that is the
   default at every zoom level and for all attributes. Of the stack of fonts this is the font that is
   chosen from it, if the layer has a text. -/
theorem compile_keeps_defaults :
    (∀ value : Value, Value.ofJson value.toJson = value ↔
      ∀ x, value.HasNumber x → x.isFinite = true) ∧
    ∀ (layer : Layer) (index : Nat) (fonts : Option (List String)) (property : Property)
      (default : Value), property.default? = some default → layer.mentions property = false →
      ∃ function, (layer.normalize.compile index fonts).paint.get? property = some function ∧
        ∀ zoom attributes, function.evaluate zoom attributes =
          if property = .textFont ∧ layer.mentions .textField = true then chooseFont fonts default
          else default := by
  refine ⟨Value.ofJson_toJson_iff, ?_⟩
  intro layer index fonts property default hdefault hmentions
  exact ⟨_, get?_compile_of_not_mentions hdefault hmentions index fonts, fun _ _ => rfl⟩

/-- A signpost with a text and its sizes, of no font. -/
def signpost : Layer where
  id := "signpost"
  layout := some [("text-field", .string "{name}"),
    ("text-size", .object [("stops", .array [
      .array [.number (.integer 6), .number (.integer 9)],
      .array [.number (.integer 12), .number (.integer 18)]])])]

/-- Two offsets, the first of which has a negative zero. -/
def twoOffsets : Value := .array [.array [.number (-0), .number 1.5], .array [.number 3, .number 0]]

/-- The font of the signpost is the one of the default stack that there is. The literal of an offset
keeps the sign of a zero. -/
theorem compile_keeps_defaults_signpost :
    Value.ofJson twoOffsets.toJson = twoOffsets ∧
    Property.textFont.default? =
      some (.array [.string "Open Sans Regular", .string "Arial Unicode MS Regular"]) ∧
    signpost.mentions .textFont = false ∧ signpost.mentions .textField = true ∧
    ∃ function, (signpost.normalize.compile 0 (some ["Arial Unicode MS Regular"])).paint.get?
        .textFont = some function ∧
      ∀ zoom attributes, function.evaluate zoom attributes =
        .string "Arial Unicode MS Regular" := by
  have hfont : signpost.mentions .textFont = false := by decide +kernel
  have hfield : signpost.mentions .textField = true := by decide +kernel
  have hfinite : twoOffsets.IsFinite := by
    suffices (-0 : Float).isFinite ∧ (1.5 : Float).isFinite ∧ (3 : Float).isFinite ∧
        (0 : Float).isFinite by simpa [twoOffsets, and_assoc]
    decide +kernel
  refine ⟨(compile_keeps_defaults.1 twoOffsets).mpr hfinite, rfl, hfont, hfield, ?_⟩
  obtain ⟨function, hfunction, hevaluate⟩ :=
    compile_keeps_defaults.2 signpost 0 (some ["Arial Unicode MS Regular"]) .textFont _ rfl hfont
  refine ⟨function, hfunction, fun zoom attributes => ?_⟩
  rw [hevaluate, if_pos ⟨rfl, hfield⟩]
  rfl

end Layer

end MapStyling
