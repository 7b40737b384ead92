import MapStyling.Proofs.Sheet.Defaults

/-!
# Which declaration counts

A property may be declared in the paint of a layer and in its layout, and it may have a default. Of
these the first counts that is there and not null, with one exception: where the paint or the layout
says null and neither says anything else, null is what is declared, and the default is not filled in
(`Layer.get?_paint_normalize`). A null in the paint gives way to the layout, but not to the default.

The law of a single merged entry is `Layer.get?_mergeEntry`, and that of a whole layout
`Layer.get?_foldl_mergeEntry`. The latter asks that a layout has one entry for each key, as it has in
every document that is read from a text (`Document.ascending_prepared`).
-/

namespace MapStyling

/-- A JSON value that is there and not null. -/
def Json.unlessNull (json? : Option Json) : Option Json :=
  json?.filter fun json => !json.isNull

namespace Json

theorem eq_null_of_isNull {json : Json} (h : json.isNull = true) : json = .null := by
  cases json with
  | null => rfl
  | bool _ | number _ | string _ | array _ | object _ => cases h

@[simp] theorem unlessNull_none : unlessNull none = none := rfl

@[simp] theorem unlessNull_null : unlessNull (some .null) = none := rfl

theorem unlessNull_some {json : Json} (h : json.isNull = false) :
    unlessNull (some json) = some json := by
  rw [unlessNull, Option.filter_some, h, Bool.not_false, if_pos rfl]

theorem unlessNull_or_self (json? : Option Json) : (unlessNull json?).or json? = json? := by
  cases json? with
  | none => rfl
  | some json =>
    cases hnull : json.isNull with
    | true => rw [eq_null_of_isNull hnull, unlessNull_null, Option.none_or]
    | false => rw [unlessNull_some hnull, Option.some_or]

/-- Whatever is there is null or counts. -/
theorem cases_unlessNull (json? : Option Json) :
    json? = none ∨ json? = some .null ∨ ∃ json, json? = some json ∧ json.isNull = false := by
  cases json? with
  | none => exact .inl rfl
  | some json =>
    cases hnull : json.isNull with
    | true => exact .inr (.inl (congrArg some (eq_null_of_isNull hnull)))
    | false => exact .inr (.inr ⟨json, rfl, hnull⟩)

end Json

/-- No default is null. -/
theorem Property.isNull_toJson_default {property : Property} {value : Value}
    (h : property.default? = some value) : value.toJson.isNull = false := by
  cases property <;> cases h <;> rfl

namespace Layer

/-- The part of the layout that is merged into the paint: all of it, unless the layer refers to
another. -/
def mergedLayout (layer : Layer) : Keyed Json :=
  if layer.reference.isNone then layer.layout.getD [] else []

theorem getD_paint_normalize (layer : Layer) :
    layer.normalize.paint.getD [] = layer.declarations := by
  rw [normalize, Option.getD_some]

/-- A merged entry counts for its key, unless something else than null was declared before. -/
theorem get?_mergeEntry (paint : Keyed Json) (entry : String × Json) (name : String) :
    (mergeEntry paint entry).get? name =
      if entry.1 = name then (Json.unlessNull (paint.get? name)).or (some entry.2)
      else paint.get? name := by
  unfold mergeEntry
  by_cases hname : entry.1 = name
  · subst hname
    rw [if_pos rfl]
    rcases Json.cases_unlessNull (paint.get? entry.1) with hget | hget | ⟨json, hget, hnull⟩
    · simp [hget, Keyed.get?_insert]
    · simp [hget, Json.isNull, Keyed.get?_insert]
    · simp [hget, hnull, Json.unlessNull_some]
  · rw [if_neg hname]
    split
    · rfl
    · rw [Keyed.get?_insert, if_neg hname]

/-- What the paint declares counts before the layout, unless it is null and the layout declares
something, be it null as well. -/
theorem get?_foldl_mergeEntry {layout : Keyed Json} (distinct : layout.keys.Nodup)
    (paint : Keyed Json) (name : String) :
    (layout.foldl mergeEntry paint).get? name =
      (Json.unlessNull (paint.get? name)).or ((layout.get? name).or (paint.get? name)) := by
  induction layout generalizing paint with
  | nil => exact (Json.unlessNull_or_self _).symm
  | cons entry layout ih =>
    obtain ⟨hentry, hlayout⟩ := List.nodup_cons.mp distinct
    rw [List.foldl_cons, ih hlayout, get?_mergeEntry, Keyed.get?_cons]
    by_cases hname : entry.1 = name
    · subst hname
      rw [if_pos rfl, if_pos rfl, Keyed.get?_eq_none_of_not_mem hentry, Option.none_or,
        Json.unlessNull_or_self, Option.some_or]
    · rw [if_neg hname, if_neg hname]

/-- A merged entry is there, and so is what was declared before. -/
theorem contains_mergeEntry (paint : Keyed Json) (entry : String × Json) (name : String) :
    (mergeEntry paint entry).contains name = (paint.contains name || decide (entry.1 = name)) := by
  rw [Keyed.contains, get?_mergeEntry]
  by_cases hname : entry.1 = name
  · rw [if_pos hname, Option.isSome_or, decide_eq_true hname, Option.isSome_some, Bool.or_true,
      Bool.or_true]
  · rw [if_neg hname, decide_eq_false hname, Bool.or_false, Keyed.contains]

/-- A merged layout is there, and so is the paint. -/
theorem contains_foldl_mergeEntry (layout paint : Keyed Json) (name : String) :
    Keyed.contains (layout.foldl mergeEntry paint) name =
      (paint.contains name || Keyed.contains layout name) := by
  induction layout generalizing paint with
  | nil => exact (Bool.or_false _).symm
  | cons entry layout ih =>
    rw [List.foldl_cons, ih, contains_mergeEntry, Keyed.contains_cons, Bool.or_assoc]

theorem nodup_keys_mergedLayout {layer : Layer} (distinct : (layer.layout.getD []).keys.Nodup) :
    layer.mergedLayout.keys.Nodup := by
  unfold mergedLayout
  split
  · exact distinct
  · exact List.nodup_nil

/-- The declaration of a property in a layer whose declarations are all in its paint. -/
theorem get?_declarations_of_distinct {layer : Layer}
    (distinct : (layer.layout.getD []).keys.Nodup) (property : Property) :
    layer.declarations.get? property.name =
      ((Json.unlessNull ((layer.paint.getD []).get? property.name)).or
        ((layer.mergedLayout.get? property.name).or
          ((layer.paint.getD []).get? property.name))).or
        (property.default?.map Value.toJson) := by
  have hwritten : layer.written = layer.mergedLayout.foldl mergeEntry (layer.paint.getD []) := rfl
  rw [get?_declarations, hwritten, get?_foldl_mergeEntry (nodup_keys_mergedLayout distinct)]

/-- The declaration of a property in a layer whose declarations are all in its paint, in three parts.
1. It is the first of the paint and the layout that is not null. Where there is none, it is null if
   one of them is null, and else the default.
2. Where neither the paint nor the layout says null, it is the first of the paint, the layout and the
   default.
3. A property with a default is declared as something else than null exactly if the paint or the layout
   declares it so, or neither of them mentions it. -/
theorem get?_paint_normalize (layer : Layer) (distinct : (layer.layout.getD []).keys.Nodup)
    (property : Property) :
    let own := (layer.paint.getD []).get? property.name
    let laid := layer.mergedLayout.get? property.name
    let default := property.default?.map Value.toJson
    let written := (Json.unlessNull own).or (Json.unlessNull laid)
    let declared := (layer.normalize.paint.getD []).get? property.name
    declared = written.or (if own.isSome || laid.isSome then some .null else default) ∧
      (own ≠ some .null → laid ≠ some .null → declared = (own.or laid).or default) ∧
      (property.default?.isSome = true →
        ((Json.unlessNull declared).isSome = true ↔
          written.isSome = true ∨ own = none ∧ laid = none)) := by
  intro own laid default written declared
  have hdeclared : declared = ((Json.unlessNull own).or (laid.or own)).or default := by
    simp only [declared, getD_paint_normalize]
    exact get?_declarations_of_distinct distinct property
  have hdefault : Json.unlessNull default = default := by
    cases hvalue : property.default? with
    | none => simp only [default, hvalue, Option.map_none, Json.unlessNull_none]
    | some value =>
      simp only [default, hvalue, Option.map_some]
      exact Json.unlessNull_some (Property.isNull_toJson_default hvalue)
  have hsome : default.isSome = property.default?.isSome := Option.isSome_map
  rw [← hsome, hdeclared]
  clear_value own laid default
  -- The paint and the layout may each say nothing, null, or something else.
  rcases Json.cases_unlessNull own with rfl | rfl | ⟨json, rfl, hnull⟩ <;>
    rcases Json.cases_unlessNull laid with rfl | rfl | ⟨json', rfl, hnull'⟩ <;>
    simp [*, written, Json.unlessNull_some]

/-- A road of which the paint and the layout say different things. -/
def mixedRoad : Layer where
  id := "road"
  layout := some [("line-cap", .string "butt"), ("line-join", .null),
    ("line-width", .number (.integer 3))]
  paint := some [("line-cap", .string "round"), ("line-miter-limit", .null), ("line-width", .null)]

/-- The cap is that of the paint, the width that of the layout, and the opacity the default. The join
is null. -/
theorem get?_paint_normalize_mixedRoad :
    let declared := fun property : Property =>
      (mixedRoad.normalize.paint.getD []).get? property.name
    (mixedRoad.layout.getD []).keys.Nodup ∧ declared .lineCap = some (.string "round") ∧
      declared .lineWidth = some (.number (.integer 3)) ∧
      declared .lineOpacity = Property.lineOpacity.default?.map Value.toJson ∧
      declared .lineJoin = some .null := by
  intro declared
  have distinct : (mixedRoad.layout.getD []).keys.Nodup := by decide
  exact ⟨distinct, (get?_paint_normalize mixedRoad distinct .lineCap).1,
    (get?_paint_normalize mixedRoad distinct .lineWidth).1,
    (get?_paint_normalize mixedRoad distinct .lineOpacity).1,
    (get?_paint_normalize mixedRoad distinct .lineJoin).1⟩

/-- Of the join nothing but null is said in the layout, and of the miter limit in the paint. Both have
a default, which is not filled in. -/
theorem declared_null_mixedRoad :
    let default := fun property : Property => property.default?.map Value.toJson
    let declared := fun property : Property =>
      (mixedRoad.normalize.paint.getD []).get? property.name
    (default .lineJoin = some (.string "miter") ∧ declared .lineJoin = some .null) ∧
      (default .lineMiterLimit = some (.number (.float 2 rfl)) ∧
        declared .lineMiterLimit = some .null) := by
  intro default declared
  have hdeclared : ∀ property, declared property =
      (mixedRoad.written.get? property.name).or (default property) := by
    intro property
    simp only [declared, getD_paint_normalize]
    exact mixedRoad.get?_declarations property
  exact ⟨⟨rfl, hdeclared .lineJoin⟩, rfl, hdeclared .lineMiterLimit⟩

end Layer

end MapStyling
