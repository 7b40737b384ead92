import MapStyling.Proofs.Document
import MapStyling.Proofs.Sheet.Precedence

/-!
# Ascending keys

In a JSON value that is read from a text the members of every object, at any depth, are in ascending
order of their keys, so that each key has one entry (`Json.ascending_of_parse?`). The layers of a
document have their layout and paint from such a value, another layer's structure is taken over as it
stands, and merging and filling in defaults keep the order. So both are ascending in every layer that
is drawn (`Document.ascending_prepared`).

Of a value that is not read from a text nothing is said: its members may stand in any order, and more
than once.
-/

namespace MapStyling

/-! ## Values -/

namespace Json

/-- The members of every object in a value are in ascending order of their keys. -/
inductive Ascending : Json → Prop
  | null : Ascending .null
  | bool (value : Bool) : Ascending (.bool value)
  | number (value : Number) : Ascending (.number value)
  | string (value : String) : Ascending (.string value)
  | array {items : List Json} : (∀ item ∈ items, Ascending item) → Ascending (.array items)
  | object {members : Keyed Json} : members.keys.Pairwise (· < ·) →
    (∀ member ∈ members, Ascending member.2) → Ascending (.object members)

/-- What is read with some fuel is ascending. The members of an object are given as they are
written, and put in order by the reader of the object. -/
structure ReadsAscending (fuel : Nat) : Prop where
  value : ∀ {depth cs json rest}, takeValue? fuel depth cs = some (json, rest) → json.Ascending
  items : ∀ {depth cs items rest}, takeItems? fuel depth cs = some (items, rest) →
    ∀ item ∈ items, item.Ascending
  members : ∀ {depth cs members rest}, takeMembers? fuel depth cs = some (members, rest) →
    ∀ member ∈ members, member.2.Ascending

variable {fuel depth : Nat} {cs rest : List Char}

theorem ascending_of_map {α : Type} {read : Option α} {build : α → Json × List Char} {json : Json}
    (hbuild : ∀ a, read = some a → (build a).1.Ascending)
    (h : read.map build = some (json, rest)) : json.Ascending := by
  obtain ⟨a, hread, heq⟩ := Option.map_eq_some_iff.mp h
  have hjson := hbuild a hread
  rwa [heq] at hjson

theorem ascending_takeValue? {json : Json} (reads : ReadsAscending fuel)
    (h : takeValue? (fuel + 1) depth cs = some (json, rest)) : json.Ascending := by
  unfold takeValue? at h
  split at h
  next => exact ascending_of_map (fun _ _ => .null) h
  next => exact ascending_of_map (fun _ _ => .bool true) h
  next => exact ascending_of_map (fun _ _ => .bool false) h
  next => exact ascending_of_map (fun _ _ => .string _) h
  next =>
    -- An array; the empty one has no items to read.
    split at h
    · cases h
    · split at h
      next =>
        cases h
        exact .array fun _ hitem => nomatch hitem
      next => exact ascending_of_map (fun _ hitems => .array (reads.items hitems)) h
  next =>
    -- An object, whose members are put in order here.
    split at h
    · cases h
    · split at h
      next =>
        cases h
        exact .object .nil fun _ hmember => nomatch hmember
      next =>
        refine ascending_of_map (fun _ hmembers => ?_) h
        exact .object (Keyed.pairwise_keys_ofList _) fun member hmember =>
          reads.members hmembers member (Keyed.mem_of_mem_ofList hmember)
  next => exact ascending_of_map (fun _ _ => .number _) h

theorem ascending_takeItems? {items : List Json} (reads : ReadsAscending fuel)
    (h : takeItems? (fuel + 1) depth cs = some (items, rest)) : ∀ item ∈ items, item.Ascending := by
  unfold takeItems? at h
  obtain ⟨⟨first, cs⟩, hfirst, h⟩ := Option.bind_eq_some_iff.mp h
  dsimp only at h
  split at h
  next =>
    obtain ⟨⟨others, cs⟩, hothers, heq⟩ := Option.bind_eq_some_iff.mp h
    cases heq
    exact List.forall_mem_cons.mpr ⟨reads.value hfirst, reads.items hothers⟩
  next =>
    cases h
    exact List.forall_mem_singleton.mpr (reads.value hfirst)
  next => cases h

theorem ascending_takeMembers? {members : List (String × Json)} (reads : ReadsAscending fuel)
    (h : takeMembers? (fuel + 1) depth cs = some (members, rest)) :
    ∀ member ∈ members, member.2.Ascending := by
  unfold takeMembers? at h
  simp only [Option.bind_eq_bind, Option.bind_eq_some_iff] at h
  obtain ⟨_, -, ⟨key, cs⟩, -, _, -, ⟨first, cs⟩, hfirst, h⟩ := h
  dsimp only at h
  split at h
  next =>
    obtain ⟨⟨others, cs⟩, hothers, heq⟩ := Option.bind_eq_some_iff.mp h
    cases heq
    exact List.forall_mem_cons.mpr ⟨reads.value hfirst, reads.members hothers⟩
  next =>
    cases h
    exact List.forall_mem_singleton.mpr (reads.value hfirst)
  next => cases h

theorem readsAscending (fuel : Nat) : ReadsAscending fuel := by
  induction fuel with
  | zero =>
    refine ⟨?_, ?_, ?_⟩ <;> intro depth cs read rest h
    · rw [takeValue?] at h
      cases h
    · rw [takeItems?] at h
      cases h
    · rw [takeMembers?] at h
      cases h
  | succ fuel reads =>
    exact ⟨ascending_takeValue? reads, ascending_takeItems? reads, ascending_takeMembers? reads⟩

/-- The members of every object that is read from a text are in ascending order of their keys. -/
theorem ascending_of_parse? {text : String} {depth : Nat} {json : Json}
    (h : parse? text depth = some json) : json.Ascending := by
  unfold parse? at h
  obtain ⟨⟨value, rest⟩, hvalue, h⟩ := Option.bind_eq_some_iff.mp h
  dsimp only at h
  split at h
  · cases h
    exact (readsAscending _).value hvalue
  · cases h

/-- A key that is written twice has one entry, and the keys are in order. -/
example : ((parse? "\x7b\"b\": 1, \"a\": 2, \"b\": 3\x7d").bind object?).map Keyed.keys =
    some ["a", "b"] := by decide +kernel

theorem Ascending.member {members : Keyed Json} {key : String} {json : Json}
    (h : Ascending (.object members)) (hget : members.get? key = some json) : json.Ascending := by
  cases h with
  | object _ hmembers => exact hmembers _ (Keyed.mem_of_get? hget)

theorem Ascending.item {items : List Json} {json : Json} (h : Ascending (.array items))
    (hitem : json ∈ items) : json.Ascending := by
  cases h with
  | array hitems => exact hitems json hitem

/-- An optional object that is read of an ascending field is ascending. -/
theorem OptionalValue.pairwise_keys {field : Option Json} {members : Option (Keyed Json)}
    (h : OptionalValue object? field members) (hfield : ∀ json, field = some json → json.Ascending) :
    (members.getD []).keys.Pairwise (· < ·) := by
  cases h with
  | absent | null => exact .nil
  | @present json _ _ hread =>
    cases hfield json rfl with
    | object hkeys _ =>
      cases hread
      exact hkeys
    | null | bool _ | number _ | string _ | array _ => cases hread

end Json

/-! ## Layers -/

namespace Layer

/-- The layout and the paint of a layer are in ascending order of their keys. -/
structure Ascending (layer : Layer) : Prop where
  layout : (layer.layout.getD []).keys.Pairwise (· < ·)
  paint : (layer.paint.getD []).keys.Pairwise (· < ·)

theorem HasFields.ascending {json : Json} {field? : String → Option Json}
    (h : HasFields json field?) (hjson : json.Ascending) {name : String} {value : Json}
    (hvalue : field? name = some value) : value.Ascending := by
  cases h with
  | object members => exact hjson.member hvalue
  | array _ =>
    obtain ⟨position, -, hitem⟩ := Option.bind_eq_some_iff.mp hvalue
    exact hjson.item (List.mem_of_getElem? hitem)

theorem IsOf.ascending {json : Json} {layer : Layer} (h : IsOf json layer)
    (hjson : json.Ascending) : layer.Ascending := by
  obtain ⟨field?, hfields, hvalues⟩ := h
  exact ⟨hvalues.layout.pairwise_keys fun _ => hfields.ascending hjson,
    hvalues.paint.pairwise_keys fun _ => hfields.ascending hjson⟩

theorem ascending_of_forall₂ {items : List Json} {layers : List Layer}
    (h : List.Forall₂ IsOf items layers) (hitems : ∀ item ∈ items, item.Ascending) :
    ∀ layer ∈ layers, layer.Ascending := by
  induction h with
  | nil => exact fun _ hlayer => nomatch hlayer
  | cons hlayer _ ih =>
    obtain ⟨hitem, hitems⟩ := List.forall_mem_cons.mp hitems
    exact List.forall_mem_cons.mpr ⟨hlayer.ascending hitem, ih hitems⟩

theorem pairwise_keys_mergeEntry {paint : Keyed Json} (h : paint.keys.Pairwise (· < ·))
    (entry : String × Json) : (mergeEntry paint entry).keys.Pairwise (· < ·) := by
  unfold mergeEntry
  split
  · exact h
  · exact Keyed.pairwise_keys_insert h _ _

theorem pairwise_keys_fillDefault {paint : Keyed Json} (h : paint.keys.Pairwise (· < ·))
    (property : Property) : (fillDefault paint property).keys.Pairwise (· < ·) := by
  unfold fillDefault
  split
  · exact h
  · split
    · exact Keyed.pairwise_keys_insert h _ _
    · exact h

/-- Gathering the declarations of a layer keeps it ascending. -/
theorem Ascending.normalize {layer : Layer} (h : layer.Ascending) : layer.normalize.Ascending where
  layout := h.layout
  paint := by
    rw [getD_paint_normalize]
    have hmerged : layer.written.keys.Pairwise (· < ·) :=
      List.foldlRecOn (motive := fun paint : Keyed Json => paint.keys.Pairwise (· < ·)) _ _ h.paint
        fun _ hpaint entry _ => pairwise_keys_mergeEntry hpaint entry
    exact List.foldlRecOn (motive := fun paint : Keyed Json => paint.keys.Pairwise (· < ·)) _ _
      hmerged fun _ hpaint property _ => pairwise_keys_fillDefault hpaint property

theorem Ascending.inherit? {document : Document} {layer resolved : Layer}
    (hlayers : ∀ layer ∈ document.layers, layer.Ascending) (hlayer : layer ∈ document.layers)
    (h : layer.inherit? document = some resolved) : resolved.Ascending := by
  unfold Layer.inherit? at h
  split at h
  · cases h
    exact hlayers layer hlayer
  · obtain ⟨target, htarget, rfl⟩ := Option.map_eq_some_iff.mp h
    exact ⟨(hlayers target (List.mem_of_find?_eq_some htarget)).layout, (hlayers layer hlayer).paint⟩

end Layer

/-! ## Documents -/

namespace Document

theorem IsOf.ascending {members : Keyed Json} {document : Document} (h : IsOf members document)
    (hmembers : Json.Ascending (.object members)) : ∀ layer ∈ document.layers, layer.Ascending := by
  obtain ⟨items, hitems, hlayers⟩ := h.layers
  have hascending : ∀ item ∈ items, item.Ascending := by
    cases hitems with
    | absent _ => exact fun _ hitem => nomatch hitem
    | present hget => exact fun item => (hmembers.member hget).item
  exact Layer.ascending_of_forall₂ hlayers hascending

/-- The layers of a document that is read from a text are ascending. -/
theorem ascending_of_parse {text : String} {document : Document} (h : parse text = .ok document) :
    ∀ layer ∈ document.layers, layer.Ascending := by
  unfold parse at h
  split at h
  next json hjson =>
    obtain ⟨members, rfl, hdocument⟩ := isOf_of_ofJson h
    exact hdocument.ascending (Json.ascending_of_parse? hjson)
  next => cases h

/-- In every layer that is drawn of a document that is read from a text, the declarations and the
layout are in ascending order of their keys. So what is declared of a property is known: the first of
the paint and the layout that is not null, else what is there of them, else the default. -/
theorem ascending_prepared {text : String} {document : Document} (parsed : parse text = .ok document)
    {selection : LayerSelection} {layer : Layer} {position : Nat}
    (h : (layer, position) ∈ document.prepared selection) :
    layer.Ascending ∧ ∃ resolved : Layer, layer = resolved.normalize ∧ resolved.Ascending ∧
      ∀ property : Property,
        let own := (resolved.paint.getD []).get? property.name
        let laid := resolved.mergedLayout.get? property.name
        (layer.paint.getD []).get? property.name =
          ((Json.unlessNull own).or (laid.or own)).or (property.default?.map Value.toJson) := by
  obtain ⟨⟨original, _⟩, horiginal, hselected⟩ := List.mem_filterMap.mp h
  obtain ⟨resolved, hresolved, heq⟩ := Option.map_eq_some_iff.mp hselected
  cases heq
  have hascending : resolved.Ascending :=
    Layer.Ascending.inherit? (ascending_of_parse parsed) 
      (List.mem_of_getElem? (List.mem_zipIdx_iff_getElem?.mp horiginal))
      (Option.filter_eq_some_iff.mp hresolved).1
  refine ⟨hascending.normalize, resolved, rfl, hascending, fun property => ?_⟩
  rw [Layer.getD_paint_normalize]
  exact Layer.get?_declarations_of_distinct (Keyed.nodup_keys hascending.layout) property

end Document

end MapStyling
