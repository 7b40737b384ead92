import MapStyling.Proofs.Sheet.Names
import MapStyling.Proofs.Sheet.Order

/-!
# Defaults

The defaults of the properties are filled in before a layer is compiled, each where nothing is
declared (`Layer.get?_declarations`). So every layer of a sheet has a function of each property with
a default, the fonts of labels among them, whatever its document declares
(`Sheet.contains_of_mem_compile`).
-/

namespace MapStyling

theorem Property.name_injective : Function.Injective Property.name := by
  intro property property' h
  have hname := congrArg ofName? h
  rw [ofName?_name, ofName?_name] at hname
  exact Option.some.inj hname

/-! ## Declarations -/

namespace Layer

/-- A default is filled in for its property, unless that is declared. -/
theorem get?_fillDefault (declared : Keyed Json) (property : Property) (name : String) :
    (fillDefault declared property).get? name =
      (declared.get? name).or
        (if property.name = name then property.default?.map Value.toJson else none) := by
  unfold fillDefault Keyed.contains
  cases hdeclared : declared.get? property.name with
  | some declaration =>
    rw [Option.isSome_some, if_pos rfl]
    by_cases hname : property.name = name
    · subst hname
      rw [hdeclared, Option.some_or]
    · rw [if_neg hname, Option.or_none]
  | none =>
    rw [Option.isSome_none, if_neg Bool.false_ne_true]
    by_cases hname : property.name = name
    · subst hname
      rw [hdeclared, Option.none_or, if_pos rfl]
      cases property.default? with
      | none => exact hdeclared
      | some value => rw [Keyed.get?_insert, if_pos rfl, Option.map_some]
    · rw [if_neg hname, Option.or_none]
      cases property.default? with
      | none => rfl
      | some value => rw [Keyed.get?_insert, if_neg hname]

/-- Defaults are filled in for some properties, unless these are declared. -/
theorem get?_foldl_fillDefault (properties : List Property) (declared : Keyed Json)
    (property : Property) :
    (properties.foldl fillDefault declared).get? property.name =
      (declared.get? property.name).or
        (if property ∈ properties then property.default?.map Value.toJson else none) := by
  induction properties generalizing declared with
  | nil => exact (Option.or_none).symm
  | cons first rest ih =>
    rw [List.foldl_cons, ih, get?_fillDefault, Option.or_assoc]
    congr 1
    by_cases hfirst : first = property
    · subst hfirst
      rw [if_pos rfl, if_pos List.mem_cons_self]
      cases hrest : first.default?.map Value.toJson with
      | none => rw [ite_self, Option.none_or]
      | some json => exact Option.some_or
    · have hmem : property ∈ first :: rest ↔ property ∈ rest := by
        rw [List.mem_cons, or_iff_right (Ne.symm hfirst)]
      rw [if_neg fun hname => hfirst (Property.name_injective hname), Option.none_or]
      simp only [hmem]

/-- The declarations that are written down for a layer, in its paint or in its layout. -/
def written (layer : Layer) : Keyed Json :=
  let layout := if layer.reference.isNone then layer.layout.getD [] else []
  layout.foldl mergeEntry (layer.paint.getD [])

/-- The declarations of a layer are those written down, and the defaults of the other properties. -/
theorem get?_declarations (layer : Layer) (property : Property) :
    layer.declarations.get? property.name =
      (layer.written.get? property.name).or (property.default?.map Value.toJson) := by
  unfold declarations written
  dsimp only
  rw [get?_foldl_fillDefault, if_pos property.mem_all]

end Layer

/-! ## Functions -/

/-- Choosing fonts takes no property away. -/
theorem Paint.contains_chooseFonts (fonts : Option (List String)) (paint : Paint)
    (property : Property) : (paint.chooseFonts fonts).contains property = paint.contains property := by
  rw [contains, get?_chooseFonts, Option.isSome_map]
  rfl

/-- A layer is compiled from its declarations. -/
theorem Layer.paint_compile_normalize (layer : Layer) (index : Nat) (fonts : Option (List String)) :
    (layer.normalize.compile index fonts).paint =
      (Paint.ofDeclarations layer.declarations).chooseFonts fonts := by
  unfold normalize compile
  dsimp only
  rw [Option.getD_some]

/-- A compiled layer has a function of each property with a default. -/
theorem Layer.contains_compile (layer : Layer) (index : Nat) (fonts : Option (List String))
    {property : Property} (h : property.default?.isSome = true) :
    (layer.normalize.compile index fonts).paint.contains property = true := by
  obtain ⟨value, hdefault⟩ := Option.isSome_iff_exists.mp h
  rw [paint_compile_normalize, Paint.contains_chooseFonts, Paint.contains, Paint.get?_ofDeclarations,
    get?_declarations, hdefault]
  cases layer.written.get? property.name <;> rfl

/-- Every layer of a sheet has a function of each property with a default. -/
theorem Sheet.contains_of_mem_compile {document : Document} {selection : LayerSelection}
    {fonts : Option (List String)} {layer : CompiledLayer}
    (hlayer : layer ∈ (compile document selection fonts).layers) {property : Property}
    (h : property.default?.isSome = true) : layer.paint.contains property = true := by
  obtain ⟨original, resolved, -, -, hcompiled⟩ := exists_of_mem_compile hlayer
  rw [hcompiled]
  exact resolved.contains_compile layer.index fonts h

end MapStyling
