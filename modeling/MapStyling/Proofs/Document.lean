import Mathlib
import MapStyling.Document

/-!
# Which documents are read

A JSON value is read as a style document exactly if it has the shape of one
(`Document.WellFormed`), and otherwise refused for the first thing that is wrong with it
(`Document.Refused`). So the answer is known for every JSON value (`Document.ofJson_decides`).

The shape of a layer is said of its fields, wherever they stand: a layer is an object, or an array of
its fields in their order (`Layer.HasFields`). Null stands for nothing in a field that is optional,
but not as the list of layers, which is looked at before.
-/

namespace MapStyling

/-! ## Optional fields -/

/-- A field is absent, or null, or has a value of some kind. -/
def Json.IsOptional (kind : Json → Prop) (field : Option Json) : Prop :=
  ∀ json, field = some json → json = .null ∨ kind json

/-- A JSON value is a text. -/
def Json.IsText (json : Json) : Prop :=
  ∃ text, json = .string text

/-- A JSON value is a number. -/
def Json.IsNumber (json : Json) : Prop :=
  ∃ number, json = .number number

/-- A JSON value is an object. -/
def Json.IsObject (json : Json) : Prop :=
  ∃ members, json = .object members

/-- The value that is read of an optional field, where null is the same as nothing. -/
inductive Json.OptionalValue {α : Type} (read : Json → Option α) : Option Json → Option α → Prop
  | absent : OptionalValue read none none
  | null : OptionalValue read (some .null) none
  | present {json : Json} {a : α} :
    json ≠ .null → read json = some a → OptionalValue read (some json) (some a)

namespace Layer

/-! ## The fields of a layer -/

/-- The fields that a JSON value has as a layer, by name. In an array they stand in their order. The
last ones may be missing, and there is nothing behind them. -/
inductive HasFields : Json → (String → Option Json) → Prop
  | object (members : Keyed Json) : HasFields (.object members) members.get?
  | array {items : List Json} : items.length ≤ fieldNames.length →
    HasFields (.array items) fun name => (fieldNames.idxOf? name).bind (items[·]?)

/-- Fields have the shape of a layer. There may be others, and the filter may be anything. -/
structure WellFormed (field? : String → Option Json) : Prop where
  id : ∃ text, field? "id" = some (.string text)
  texts : ∀ name ∈ ["type", "source", "source-layer", "ref"],
    Json.IsOptional Json.IsText (field? name)
  numbers : ∀ name ∈ ["minzoom", "maxzoom"], Json.IsOptional Json.IsNumber (field? name)
  objects : ∀ name ∈ ["layout", "paint"], Json.IsOptional Json.IsObject (field? name)

/-- A layer has the values of some fields. -/
structure HasValues (field? : String → Option Json) (layer : Layer) : Prop where
  id : field? "id" = some (.string layer.id)
  type : Json.OptionalValue Json.string? (field? "type") layer.type
  source : Json.OptionalValue Json.string? (field? "source") layer.source
  sourceLayer : Json.OptionalValue Json.string? (field? "source-layer") layer.sourceLayer
  minZoom : Json.OptionalValue Json.float? (field? "minzoom") layer.minZoom
  maxZoom : Json.OptionalValue Json.float? (field? "maxzoom") layer.maxZoom
  filter : Json.OptionalValue some (field? "filter") layer.filter
  reference : Json.OptionalValue Json.string? (field? "ref") layer.reference
  layout : Json.OptionalValue Json.object? (field? "layout") layer.layout
  paint : Json.OptionalValue Json.object? (field? "paint") layer.paint

/-- A JSON value has the shape of a layer. -/
def IsWellFormed (json : Json) : Prop :=
  ∃ field?, HasFields json field? ∧ WellFormed field?

/-- A layer is what a JSON value says. -/
def IsOf (json : Json) (layer : Layer) : Prop :=
  ∃ field?, HasFields json field? ∧ HasValues field? layer

end Layer

/-! ## Reading fields -/

theorem Json.string?_eq_some_iff {json : Json} {text : String} :
    json.string? = some text ↔ json = .string text := by
  cases json <;> simp [string?]

theorem Json.isText_iff (json : Json) : json.IsText ↔ ∃ text, json.string? = some text :=
  exists_congr fun _ => Json.string?_eq_some_iff.symm

theorem Json.isNumber_iff (json : Json) : json.IsNumber ↔ ∃ x, json.float? = some x := by
  cases json <;> simp [IsNumber, float?]

theorem Json.isObject_iff (json : Json) :
    json.IsObject ↔ ∃ members, json.object? = some members := by
  cases json <;> simp [IsObject, object?]

/-- A value can be read of an optional field that is of the right kind. -/
theorem Json.exists_optionalValue_iff {α : Type} {read : Json → Option α} {kind : Json → Prop}
    (hkind : ∀ json, kind json ↔ ∃ a, read json = some a) (field : Option Json) :
    (∃ value, OptionalValue read field value) ↔ IsOptional kind field := by
  constructor
  · rintro ⟨value, h⟩ json rfl
    cases h with
    | null => exact .inl rfl
    | present _ hread => exact .inr ((hkind json).mpr ⟨_, hread⟩)
  · intro h
    cases field with
    | none => exact ⟨none, .absent⟩
    | some json =>
      by_cases hnull : json = .null
      · subst hnull
        exact ⟨none, .null⟩
      · obtain ⟨a, hread⟩ := (hkind json).mp ((h json rfl).resolve_left hnull)
        exact ⟨some a, .present hnull hread⟩

namespace Layer

theorem optional?_eq_some_iff {α : Type} {read : Json → Option α} {field : Option Json}
    {value : Option α} :
    optional? read field = some value ↔ Json.OptionalValue read field value := by
  constructor
  · intro h
    unfold optional? at h
    split at h
    · cases h
      exact .absent
    · cases h
      exact .null
    next json hnull =>
      obtain ⟨a, hread, rfl⟩ := Option.map_eq_some_iff.mp h
      exact .present (fun heq => hnull (heq ▸ rfl)) hread
  · intro h
    cases h with
    | absent => rfl
    | null => rfl
    | @present json a hnull hread =>
      unfold optional?
      split
      next heq => cases heq
      next heq => exact absurd (Option.some.inj heq) hnull
      next heq =>
        cases heq
        rw [hread]
        rfl

/-- A layer is read of its fields exactly if it has their values. -/
theorem ofFields?_eq_some_iff {fields : Keyed Json} {layer : Layer} :
    ofFields? fields = some layer ↔ HasValues fields.get? layer := by
  simp only [ofFields?, Option.bind_eq_bind, Option.bind_eq_some_iff, optional?_eq_some_iff,
    Json.string?_eq_some_iff, Option.some.injEq]
  constructor
  · rintro ⟨_, hid, id, rfl, type, htype, source, hsource, sourceLayer, hsourceLayer, minZoom,
      hminZoom, maxZoom, hmaxZoom, filter, hfilter, reference, hreference, layout, hlayout, paint,
      hpaint, rfl⟩
    exact ⟨hid, htype, hsource, hsourceLayer, hminZoom, hmaxZoom, hfilter, hreference, hlayout,
      hpaint⟩
  · intro h
    exact ⟨_, h.id, _, rfl, _, h.type, _, h.source, _, h.sourceLayer, _, h.minZoom, _, h.maxZoom, _,
      h.filter, _, h.reference, _, h.layout, _, h.paint, rfl⟩

/-- Fields with the values of a layer have the shape of one. -/
theorem HasValues.wellFormed {field? : String → Option Json} {layer : Layer}
    (h : HasValues field? layer) : WellFormed field? := by
  have htext := fun field => (Json.exists_optionalValue_iff Json.isText_iff field).mp
  have hnumber := fun field => (Json.exists_optionalValue_iff Json.isNumber_iff field).mp
  have hobject := fun field => (Json.exists_optionalValue_iff Json.isObject_iff field).mp
  refine ⟨⟨_, h.id⟩, ?_, ?_, ?_⟩
  all_goals
    simp only [List.forall_mem_cons, List.not_mem_nil, false_implies, implies_true, and_true]
  · exact ⟨htext _ ⟨_, h.type⟩, htext _ ⟨_, h.source⟩, htext _ ⟨_, h.sourceLayer⟩,
      htext _ ⟨_, h.reference⟩⟩
  · exact ⟨hnumber _ ⟨_, h.minZoom⟩, hnumber _ ⟨_, h.maxZoom⟩⟩
  · exact ⟨hobject _ ⟨_, h.layout⟩, hobject _ ⟨_, h.paint⟩⟩

/-- Fields with the shape of a layer have the values of one. -/
theorem WellFormed.exists_hasValues {field? : String → Option Json} (h : WellFormed field?) :
    ∃ layer, HasValues field? layer := by
  have htext := fun name hname =>
    (Json.exists_optionalValue_iff Json.isText_iff (field? name)).mpr (h.texts name hname)
  have hnumber := fun name hname =>
    (Json.exists_optionalValue_iff Json.isNumber_iff (field? name)).mpr (h.numbers name hname)
  have hobject := fun name hname =>
    (Json.exists_optionalValue_iff Json.isObject_iff (field? name)).mpr (h.objects name hname)
  have hany : ∀ json : Json, True ↔ ∃ a, some json = some a := fun json => by simp
  obtain ⟨id, hid⟩ := h.id
  obtain ⟨type, htype⟩ := htext "type" (by simp)
  obtain ⟨source, hsource⟩ := htext "source" (by simp)
  obtain ⟨sourceLayer, hsourceLayer⟩ := htext "source-layer" (by simp)
  obtain ⟨reference, hreference⟩ := htext "ref" (by simp)
  obtain ⟨minZoom, hminZoom⟩ := hnumber "minzoom" (by simp)
  obtain ⟨maxZoom, hmaxZoom⟩ := hnumber "maxzoom" (by simp)
  obtain ⟨layout, hlayout⟩ := hobject "layout" (by simp)
  obtain ⟨paint, hpaint⟩ := hobject "paint" (by simp)
  obtain ⟨filter, hfilter⟩ := (Json.exists_optionalValue_iff hany (field? "filter")).mpr
    fun _ _ => .inr trivial
  exact ⟨⟨id, type, source, sourceLayer, minZoom, maxZoom, filter, reference, layout, paint⟩, hid,
    htype, hsource, hsourceLayer, hminZoom, hmaxZoom, hfilter, hreference, hlayout, hpaint⟩

/-! ## Reading layers -/

/-- Items that are named in their order are found by their positions. -/
theorem get?_zip (names : List String) (items : List Json) (name : String) :
    Keyed.get? (names.zip items) name = (names.idxOf? name).bind (items[·]?) := by
  induction names generalizing items with
  | nil => rfl
  | cons first names ih =>
    rw [List.idxOf?_cons]
    cases items with
    | nil =>
      rw [List.zip_nil_right, Keyed.get?_nil]
      cases (if first == name then some 0 else (names.idxOf? name).map (· + 1)) <;> rfl
    | cons item items =>
      rw [List.zip_cons_cons, Keyed.get?_cons]
      by_cases hname : first = name
      · rw [if_pos hname, if_pos (beq_iff_eq.mpr hname)]
        rfl
      · rw [if_neg hname, if_neg (mt beq_iff_eq.mp hname), ih]
        cases names.idxOf? name <;> rfl

/-- The fields of a JSON value are those that it is taken apart into. -/
theorem hasFields_iff {json : Json} {field? : String → Option Json} :
    HasFields json field? ↔ ∃ fields, fields? json = some fields ∧ field? = fields.get? := by
  constructor
  · intro h
    cases h with
    | object members => exact ⟨members, rfl, rfl⟩
    | @array items hlength =>
      refine ⟨fieldNames.zip items, if_pos hlength, ?_⟩
      funext name
      exact (get?_zip fieldNames items name).symm
  · rintro ⟨fields, hfields, rfl⟩
    unfold fields? at hfields
    split at hfields
    · cases hfields
      exact .object fields
    next items =>
      split at hfields
      next hlength =>
        cases hfields
        rw [funext (get?_zip fieldNames items)]
        exact .array hlength
      next => cases hfields
    · cases hfields

/-- What is read of a JSON value is the layer that it says. -/
theorem ofJson?_eq_some_iff {json : Json} {layer : Layer} :
    ofJson? json = some layer ↔ IsOf json layer := by
  unfold ofJson? IsOf
  simp only [Option.bind_eq_some_iff, ofFields?_eq_some_iff, hasFields_iff]
  constructor
  · rintro ⟨fields, hfields, hvalues⟩
    exact ⟨_, ⟨fields, hfields, rfl⟩, hvalues⟩
  · rintro ⟨_, ⟨fields, hfields, rfl⟩, hvalues⟩
    exact ⟨fields, hfields, hvalues⟩

theorem exists_isOf_iff (json : Json) : (∃ layer, IsOf json layer) ↔ IsWellFormed json := by
  constructor
  · rintro ⟨layer, field?, hfields, hvalues⟩
    exact ⟨field?, hfields, hvalues.wellFormed⟩
  · rintro ⟨field?, hfields, hwellFormed⟩
    obtain ⟨layer, hvalues⟩ := hwellFormed.exists_hasValues
    exact ⟨layer, field?, hfields, hvalues⟩

end Layer

namespace Document

/-! ## The shape of a document -/

/-- The version of a document, if it is written as a whole number that is not negative. -/
def HasVersion (members : Keyed Json) (version : Nat) : Prop :=
  members.get? "version" = some (.number (.integer version))

/-- The JSON values of the layers, of which there are none if there is no list of them. -/
inductive HasItems (members : Keyed Json) : List Json → Prop
  | absent : members.get? "layers" = none → HasItems members []
  | present {items : List Json} :
    members.get? "layers" = some (.array items) → HasItems members items

/-- The members of an object are those of a document of version 8. There may be others. -/
structure WellFormed (members : Keyed Json) : Prop where
  version : HasVersion members 8
  texts : ∀ name ∈ ["name", "sprite"], Json.IsOptional Json.IsText (members.get? name)
  layers : ∃ items, HasItems members items ∧ ∀ item ∈ items, Layer.IsWellFormed item

/-- A document is what the members of an object say, with a layer for each item, in their order. -/
structure IsOf (members : Keyed Json) (document : Document) : Prop where
  version : HasVersion members document.version
  supported : document.version = 8
  name : Json.OptionalValue Json.string? (members.get? "name") document.name
  sprite : Json.OptionalValue Json.string? (members.get? "sprite") document.sprite
  layers : ∃ items, HasItems members items ∧ List.Forall₂ Layer.IsOf items document.layers

/-- The first thing that is wrong with a JSON value that is no document. -/
inductive Refused : Json → StyleError → Prop
  | notAnObject {json : Json} :
    (∀ members, json ≠ .object members) → Refused json (.invalidDocument .notAnObject)
  | missingVersion {members : Keyed Json} :
    members.get? "version" = none → Refused (.object members) (.invalidDocument .missingVersion)
  | versionNotAnInteger {members : Keyed Json} {version : Json} :
    members.get? "version" = some version → (∀ n, ¬HasVersion members n) →
      Refused (.object members) (.invalidDocument .versionNotAnInteger)
  | unsupportedVersion {members : Keyed Json} {version : Nat} :
    HasVersion members version → version ≠ 8 →
      Refused (.object members) (.unsupportedVersion version)
  | layersNotAnArray {members : Keyed Json} :
    HasVersion members 8 → (∀ items, ¬HasItems members items) →
      Refused (.object members) (.invalidDocument .layersNotAnArray)
  | malformed {members : Keyed Json} {items : List Json} :
    HasVersion members 8 → HasItems members items → ¬WellFormed members →
      Refused (.object members) .malformed

/-! ## Reading the members -/

theorem nat?_eq_some_iff {json : Json} {n : Nat} :
    json.nat? = some n ↔ json = .number (.integer n) := by
  constructor
  · intro h
    unfold Json.nat? at h
    split at h
    · cases h
      rfl
    · cases h
  · rintro rfl
    rfl

theorem versionOf_eq_ok {members : Keyed Json} {version : Nat} (h : HasVersion members version) :
    versionOf members = .ok version := by
  unfold versionOf
  rw [show members.get? "version" = _ from h]
  rfl

theorem versionOf_eq_error {members : Keyed Json} {json : Json}
    (hmember : members.get? "version" = some json) (hnot : ∀ n, ¬HasVersion members n) :
    versionOf members = .error (.invalidDocument .versionNotAnInteger) := by
  cases hnat : json.nat? with
  | none => simp only [versionOf, hmember, hnat]
  | some n =>
    rw [nat?_eq_some_iff.mp hnat] at hmember
    exact absurd hmember (hnot n)

theorem layerItems_eq_ok {members : Keyed Json} {items : List Json} (h : HasItems members items) :
    layerItems members = .ok items := by
  cases h with
  | absent hnone => simp only [layerItems, hnone]
  | present hitems => simp only [layerItems, hitems]

theorem layerItems_eq_error {members : Keyed Json} (hnot : ∀ items, ¬HasItems members items) :
    layerItems members = .error (.invalidDocument .layersNotAnArray) := by
  unfold layerItems
  split
  next hnone => exact absurd (.absent hnone) (hnot [])
  next items hitems => exact absurd (.present hitems) (hnot items)
  next => rfl

theorem HasItems.unique {members : Keyed Json} {items items' : List Json}
    (h : HasItems members items) (h' : HasItems members items') : items = items' :=
  Except.ok.inj ((layerItems_eq_ok h).symm.trans (layerItems_eq_ok h'))

/-- Reading one by one gives one result for each, in their order. -/
theorem mapM_eq_some_iff {α β : Type} {read : α → Option β} {as : List α} {bs : List β} :
    as.mapM read = some bs ↔ List.Forall₂ (fun a b => read a = some b) as bs := by
  induction as generalizing bs with
  | nil =>
    rw [List.mapM_nil, List.forall₂_nil_left_iff]
    exact ⟨fun h => (Option.some.inj h).symm, fun h => h ▸ rfl⟩
  | cons a as ih =>
    rw [List.mapM_cons, List.forall₂_cons_left_iff]
    simp only [Option.bind_eq_bind, Option.bind_eq_some_iff, ih]
    constructor
    · rintro ⟨b, hb, bs, hbs, heq⟩
      cases heq
      exact ⟨b, bs, hb, hbs, rfl⟩
    · rintro ⟨b, bs, hb, hbs, rfl⟩
      exact ⟨b, hb, bs, hbs, rfl⟩

/-- What is read of the members behind the version is the document that they say. -/
theorem decode?_eq_some_iff {members : Keyed Json} {items : List Json} {document : Document}
    (hversion : HasVersion members 8) (hitems : HasItems members items) :
    decode? 8 members items = some document ↔ IsOf members document := by
  simp only [decode?, Option.bind_eq_bind, Option.bind_eq_some_iff, Layer.optional?_eq_some_iff,
    mapM_eq_some_iff, Layer.ofJson?_eq_some_iff, Option.some.injEq]
  constructor
  · rintro ⟨name, hname, sprite, hsprite, layers, hlayers, rfl⟩
    exact ⟨hversion, rfl, hname, hsprite, items, hitems, hlayers⟩
  · rintro ⟨-, hsupported, hname, hsprite, items', hitems', hlayers⟩
    obtain rfl := hitems.unique hitems'
    refine ⟨_, hname, _, hsprite, _, hlayers, ?_⟩
    rw [← hsupported]

/-- There is a list of what is related to the items, one by one, if there is something for each. -/
theorem exists_forall₂_iff {α β : Type} {related : α → β → Prop} (as : List α) :
    (∃ bs, List.Forall₂ related as bs) ↔ ∀ a ∈ as, ∃ b, related a b := by
  induction as with
  | nil => exact ⟨fun _ a ha => absurd ha List.not_mem_nil, fun _ => ⟨[], .nil⟩⟩
  | cons a as ih =>
    rw [List.forall_mem_cons, ← ih]
    constructor
    · rintro ⟨_, _ | ⟨hb, hbs⟩⟩
      exact ⟨⟨_, hb⟩, _, hbs⟩
    · rintro ⟨⟨b, hb⟩, bs, hbs⟩
      exact ⟨b :: bs, .cons hb hbs⟩

/-- Only members of the shape of a document say one. -/
theorem IsOf.wellFormed {members : Keyed Json} {document : Document} (h : IsOf members document) :
    WellFormed members := by
  obtain ⟨items, hitems, hlayers⟩ := h.layers
  have htext := fun field => (Json.exists_optionalValue_iff Json.isText_iff field).mp
  refine ⟨h.supported ▸ h.version, ?_, items, hitems, ?_⟩
  · simp only [List.forall_mem_cons, List.not_mem_nil, false_implies, implies_true, and_true]
    exact ⟨htext _ ⟨_, h.name⟩, htext _ ⟨_, h.sprite⟩⟩
  · intro item hitem
    apply (Layer.exists_isOf_iff item).mp
    exact (exists_forall₂_iff items).mp ⟨_, hlayers⟩ item hitem

/-- Members of the shape of a document say one. -/
theorem WellFormed.exists_isOf {members : Keyed Json} (h : WellFormed members) :
    ∃ document, IsOf members document := by
  obtain ⟨items, hitems, hall⟩ := h.layers
  have htext := fun name hname =>
    (Json.exists_optionalValue_iff Json.isText_iff (members.get? name)).mpr (h.texts name hname)
  obtain ⟨name, hname⟩ := htext "name" (by simp)
  obtain ⟨sprite, hsprite⟩ := htext "sprite" (by simp)
  obtain ⟨layers, hlayers⟩ := (exists_forall₂_iff items).mpr fun item hitem =>
    (Layer.exists_isOf_iff item).mpr (hall item hitem)
  exact ⟨⟨8, name, sprite, layers⟩, h.version, rfl, hname, hsprite, items, hitems, hlayers⟩

/-! ## Reading documents -/

/-- An object of another version is refused for it, whatever its layers are. -/
theorem ofJson_of_version_ne {members : Keyed Json} {version : Nat}
    (hread : versionOf members = .ok version) (hversion : version ≠ 8) :
    ofJson (.object members) = .error (.unsupportedVersion version) := by
  have hcheck : checkVersion version = .error (.unsupportedVersion version) := if_neg hversion
  simp only [ofJson, hread, hcheck, bind, Except.bind]

theorem ofJson_of_layerItems_error {members : Keyed Json} {error : StyleError}
    (hread : versionOf members = .ok 8) (hlayers : layerItems members = .error error) :
    ofJson (.object members) = .error error := by
  simp only [ofJson, hread, hlayers, bind, Except.bind, checkVersion, supportedVersion, if_true]

/-- With its version and the list of its layers right, an object is read as far as it can be. -/
theorem ofJson_of_layerItems_ok {members : Keyed Json} {items : List Json}
    (hread : versionOf members = .ok 8) (hlayers : layerItems members = .ok items) :
    ofJson (.object members) = (decode? 8 members items).elim (.error .malformed) .ok := by
  simp only [ofJson, hread, hlayers, bind, Except.bind, checkVersion, supportedVersion, if_true]
  cases decode? 8 members items <;> rfl

theorem ofJson_of_isOf {members : Keyed Json} {document : Document} (h : IsOf members document) :
    ofJson (.object members) = .ok document := by
  obtain ⟨items, hitems, -⟩ := h.layers
  have hversion : HasVersion members 8 := h.supported ▸ h.version
  rw [ofJson_of_layerItems_ok (versionOf_eq_ok hversion) (layerItems_eq_ok hitems),
    (decode?_eq_some_iff hversion hitems).mpr h]
  rfl

theorem ofJson_of_refused {json : Json} {error : StyleError} (h : Refused json error) :
    ofJson json = .error error := by
  cases h with
  | notAnObject hother =>
    cases json with
    | object members => exact absurd rfl (hother members)
    | _ => rfl
  | missingVersion hnone => simp only [ofJson, versionOf, hnone, bind, Except.bind]
  | versionNotAnInteger hmember hnot =>
    simp only [ofJson, versionOf_eq_error hmember hnot, bind, Except.bind]
  | unsupportedVersion hversion hne => exact ofJson_of_version_ne (versionOf_eq_ok hversion) hne
  | layersNotAnArray hversion hnot =>
    exact ofJson_of_layerItems_error (versionOf_eq_ok hversion) (layerItems_eq_error hnot)
  | malformed hversion hitems hnot =>
    rw [ofJson_of_layerItems_ok (versionOf_eq_ok hversion) (layerItems_eq_ok hitems)]
    cases hdecode : decode? 8 _ _ with
    | none => rfl
    | some document =>
      exact absurd ((decode?_eq_some_iff hversion hitems).mp hdecode).wellFormed hnot

/-- Nothing is neither a document nor refused. -/
theorem isOf_or_refused (json : Json) :
    (∃ members document, json = .object members ∧ IsOf members document) ∨
      ∃ error, Refused json error := by
  cases json with
  | object members =>
    by_cases hwellFormed : WellFormed members
    · obtain ⟨document, hdocument⟩ := hwellFormed.exists_isOf
      exact .inl ⟨members, document, rfl, hdocument⟩
    right
    cases hmember : Keyed.get? members "version" with
    | none => exact ⟨_, .missingVersion hmember⟩
    | some json =>
      by_cases hinteger : ∃ version, HasVersion members version
      · obtain ⟨version, hversion⟩ := hinteger
        by_cases hsupported : version = 8
        · subst hsupported
          by_cases hlist : ∃ items, HasItems members items
          · obtain ⟨items, hitems⟩ := hlist
            exact ⟨_, .malformed hversion hitems hwellFormed⟩
          · exact ⟨_, .layersNotAnArray hversion (not_exists.mp hlist)⟩
        · exact ⟨_, .unsupportedVersion hversion hsupported⟩
      · exact ⟨_, .versionNotAnInteger hmember (not_exists.mp hinteger)⟩
  | _ => exact .inr ⟨_, .notAnObject fun members hjson => by cases hjson⟩

/-- What is read is a document that the value says. -/
theorem isOf_of_ofJson {json : Json} {document : Document} (h : ofJson json = .ok document) :
    ∃ members, json = .object members ∧ IsOf members document := by
  obtain ⟨members, document', rfl, hdocument⟩ | ⟨error, hrefused⟩ := isOf_or_refused json
  · rw [ofJson_of_isOf hdocument] at h
    cases h
    exact ⟨members, rfl, hdocument⟩
  · rw [ofJson_of_refused hrefused] at h
    cases h

theorem refused_of_ofJson {json : Json} {error : StyleError} (h : ofJson json = .error error) :
    Refused json error := by
  obtain ⟨members, document, rfl, hdocument⟩ | ⟨error', hrefused⟩ := isOf_or_refused json
  · rw [ofJson_of_isOf hdocument] at h
    cases h
  · rw [ofJson_of_refused hrefused] at h
    cases h
    exact hrefused

/-- What is read of a JSON value, in three parts.
1. A document is read exactly of an object that is well-formed.
2. The document is the one that the object says, with its layers in their order.
3. Whatever else is refused for the first thing that is wrong with it. -/
theorem ofJson_decides (json : Json) :
    ((∃ document, ofJson json = .ok document) ↔
      ∃ members, json = .object members ∧ WellFormed members) ∧
    (∀ document, ofJson json = .ok document ↔
      ∃ members, json = .object members ∧ IsOf members document) ∧
    ∀ error, ofJson json = .error error ↔ Refused json error := by
  have hread : ∀ document, ofJson json = .ok document ↔
      ∃ members, json = .object members ∧ IsOf members document := by
    intro document
    constructor
    · exact isOf_of_ofJson
    · rintro ⟨members, rfl, hdocument⟩
      exact ofJson_of_isOf hdocument
  refine ⟨?_, hread, fun error => ⟨refused_of_ofJson, ofJson_of_refused⟩⟩
  constructor
  · rintro ⟨document, hok⟩
    obtain ⟨members, hjson, hdocument⟩ := (hread document).mp hok
    exact ⟨members, hjson, hdocument.wellFormed⟩
  · rintro ⟨members, hjson, hwellFormed⟩
    obtain ⟨document, hdocument⟩ := hwellFormed.exists_isOf
    exact ⟨document, (hread document).mpr ⟨members, hjson, hdocument⟩⟩

/-- A layer may be an array of its fields. Null stands for nothing in it. -/
example :
    let layer : Json := .array [.string "water", .null, .string "tiles"]
    let json : Json := .object [("layers", .array [layer]), ("version", .number (.integer 8))]
    ofJson json = .ok { version := 8, layers := [{ id := "water", source := some "tiles" }] } :=
  rfl

end Document

end MapStyling
