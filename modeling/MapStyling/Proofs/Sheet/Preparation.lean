import Mathlib.Data.List.Induction
import MapStyling.Proofs.Sheet.Precedence

/-!
# Preparing layers

A layer is prepared by taking over the structure of the layer that it refers to, and then gathering
its declarations in its paint. Doing so again changes nothing, and either step changes only what it
is there for (`Layer.prepare_settles`). So a layer that a sheet is compiled from has nothing left to
prepare (`Layer.prepare_of_mem_prepared`).

Gathering merges the entries of the layout one by one and then fills in the defaults one by one. An
entry is settled if merging it changes nothing, and a default if filling it in changes nothing. Each
step settles its own entry and keeps settled what is, so that all are settled at the end
(`foldl_settles`). Nothing is assumed of the order or the keys of the entries.
-/

namespace MapStyling

/-! ## Steps that settle -/

section Settling

variable {α β : Type} (step : β → α → β)

/-- Where a step settles what it is taken for, and keeps settled what is, the steps for the elements of
a list settle them all. -/
theorem foldl_settles (settles : ∀ b a, step (step b a) a = step b a)
    (keeps : ∀ b a a', step b a = b → step (step b a') a = step b a') (b : β) (as : List α) :
    ∀ a ∈ as, step (as.foldl step b) a = as.foldl step b := by
  induction as using List.reverseRecOn with
  | nil => exact fun a ha => absurd ha List.not_mem_nil
  | append_singleton as last ih =>
    intro a ha
    rw [List.foldl_append, List.foldl_cons, List.foldl_nil]
    rcases List.mem_append.mp ha with hbefore | hlast
    · exact keeps _ a last (ih a hbefore)
    · rw [List.mem_singleton.mp hlast]
      exact settles _ last

/-- Steps for what is settled change nothing. -/
theorem foldl_of_settled {b : β} {as : List α} (h : ∀ a ∈ as, step b a = b) :
    as.foldl step b = b := by
  induction as with
  | nil => rfl
  | cons a as ih =>
    rw [List.foldl_cons, h a List.mem_cons_self]
    exact ih fun a' ha' => h a' (List.mem_cons_of_mem a ha')

end Settling

namespace Layer

variable {paint : Keyed Json} {entry : String × Json} {property : Property}

/-! ## Merging -/

/-- A key is declared as something else than null. -/
def Declares (paint : Keyed Json) (key : String) : Prop :=
  ((paint.get? key).any fun json => !json.isNull) = true

theorem mergeEntry_of_declares (h : Declares paint entry.1) : mergeEntry paint entry = paint :=
  if_pos h

theorem mergeEntry_of_not_declares (h : ¬Declares paint entry.1) :
    mergeEntry paint entry = paint.insert entry.1 entry.2 :=
  if_neg h

theorem declares_insert {key key' : String} {json : Json} :
    Declares (paint.insert key json) key' ↔
      if key = key' then json.isNull = false else Declares paint key' := by
  unfold Declares
  rw [Keyed.get?_insert]
  split <;> simp

/-- The key of a settled entry is declared, or the entry is null and stands there already. -/
theorem cases_of_settled (h : mergeEntry paint entry = paint) :
    Declares paint entry.1 ∨ entry.2 = .null ∧ paint.insert entry.1 entry.2 = paint := by
  by_cases hdeclares : Declares paint entry.1
  · exact .inl hdeclares
  · rw [mergeEntry_of_not_declares hdeclares] at h
    refine .inr ⟨Json.eq_null_of_isNull ?_, h⟩
    rw [← h, declares_insert, if_pos rfl] at hdeclares
    simpa using hdeclares

theorem contains_of_settled (h : mergeEntry paint entry = paint) :
    paint.contains entry.1 = true := by
  rcases cases_of_settled h with hdeclares | ⟨-, hset⟩
  · exact Option.isSome_of_any hdeclares
  · rw [← hset, Keyed.contains, Keyed.get?_insert, if_pos rfl]
    rfl

/-- A settled entry stays so when another key is set. -/
theorem mergeEntry_insert_of_ne (h : mergeEntry paint entry = paint) {key : String}
    (hne : key ≠ entry.1) (json : Json) :
    mergeEntry (paint.insert key json) entry = paint.insert key json := by
  rcases cases_of_settled h with hdeclares | ⟨-, hset⟩
  · refine mergeEntry_of_declares ?_
    rwa [declares_insert, if_neg hne]
  · by_cases hdeclares : Declares (paint.insert key json) entry.1
    · exact mergeEntry_of_declares hdeclares
    · rw [mergeEntry_of_not_declares hdeclares, Keyed.insert_comm _ hne, hset]

/-- Merging an entry settles it. -/
theorem mergeEntry_mergeEntry (paint : Keyed Json) (entry : String × Json) :
    mergeEntry (mergeEntry paint entry) entry = mergeEntry paint entry := by
  by_cases hdeclares : Declares paint entry.1
  · rw [mergeEntry_of_declares hdeclares, mergeEntry_of_declares hdeclares]
  · rw [mergeEntry_of_not_declares hdeclares]
    by_cases hset : Declares (paint.insert entry.1 entry.2) entry.1
    · exact mergeEntry_of_declares hset
    · rw [mergeEntry_of_not_declares hset, Keyed.insert_insert_self]

/-- A settled entry stays so when another is merged. -/
theorem mergeEntry_keeps (paint : Keyed Json) (entry entry' : String × Json)
    (h : mergeEntry paint entry = paint) :
    mergeEntry (mergeEntry paint entry') entry = mergeEntry paint entry' := by
  by_cases hdeclares' : Declares paint entry'.1
  · rw [mergeEntry_of_declares hdeclares', h]
  rw [mergeEntry_of_not_declares hdeclares']
  by_cases hkey : entry'.1 = entry.1
  · -- Of two entries of one key, either the later one is declared now, or both are null.
    rw [hkey] at hdeclares' ⊢
    obtain ⟨hnull, -⟩ := (cases_of_settled h).resolve_left hdeclares'
    by_cases hset : Declares (paint.insert entry.1 entry'.2) entry.1
    · exact mergeEntry_of_declares hset
    · have hnull' : entry'.2 = .null := by
        rw [declares_insert, if_pos rfl] at hset
        exact Json.eq_null_of_isNull (by simpa using hset)
      rw [mergeEntry_of_not_declares hset, Keyed.insert_insert_self, hnull, hnull']
  · exact mergeEntry_insert_of_ne h hkey entry'.2

/-! ## Filling in -/

/-- A default is settled exactly if its property has an entry, or if there is none. -/
theorem fillDefault_eq_self_iff :
    fillDefault paint property = paint ↔
      paint.contains property.name = true ∨ property.default? = none := by
  unfold fillDefault
  by_cases hcontains : paint.contains property.name = true
  · simp [hcontains]
  · rw [if_neg hcontains]
    cases property.default? with
    | none => simp
    | some value =>
      simp only [hcontains, false_or, reduceCtorEq, iff_false]
      intro hset
      refine hcontains ?_
      rw [← hset, Keyed.contains, Keyed.get?_insert, if_pos rfl]
      rfl

theorem contains_fillDefault {key : String} (h : paint.contains key = true)
    (property : Property) : (fillDefault paint property).contains key = true := by
  obtain ⟨json, hjson⟩ := Option.isSome_iff_exists.mp h
  rw [Keyed.contains, get?_fillDefault, hjson]
  rfl

/-- Filling a default in settles it. -/
theorem fillDefault_fillDefault (paint : Keyed Json) (property : Property) :
    fillDefault (fillDefault paint property) property = fillDefault paint property := by
  rw [fillDefault_eq_self_iff, Keyed.contains, get?_fillDefault, if_pos rfl]
  cases property.default? with
  | none => exact .inr rfl
  | some value => exact .inl (by cases paint.get? property.name <;> rfl)

/-- A settled default stays so when another is filled in. -/
theorem fillDefault_keeps (paint : Keyed Json) (property property' : Property)
    (h : fillDefault paint property = paint) :
    fillDefault (fillDefault paint property') property = fillDefault paint property' := by
  rw [fillDefault_eq_self_iff] at h ⊢
  exact h.imp_left fun hcontains => contains_fillDefault hcontains property'

/-- A settled entry stays so when a default is filled in, since that is for another key. -/
theorem mergeEntry_fillDefault (h : mergeEntry paint entry = paint) (property : Property) :
    mergeEntry (fillDefault paint property) entry = fillDefault paint property := by
  by_cases hcontains : paint.contains property.name = true
  · rw [fillDefault, if_pos hcontains, h]
  · rw [fillDefault, if_neg hcontains]
    cases property.default? with
    | none => exact h
    | some value =>
      refine mergeEntry_insert_of_ne h (fun hkey => hcontains ?_) value.toJson
      rw [hkey]
      exact contains_of_settled h

/-! ## All declarations -/

/-- The declarations of a layer are those written down, with the defaults filled in. -/
theorem declarations_eq (layer : Layer) :
    layer.declarations =
      Property.all.foldl fillDefault
        (layer.mergedLayout.foldl mergeEntry (layer.paint.getD [])) := by
  rw [declarations, mergedLayout]

/-- A settled entry stays so when defaults are filled in. -/
theorem mergeEntry_foldl_fillDefault (h : mergeEntry paint entry = paint)
    (properties : List Property) :
    mergeEntry (properties.foldl fillDefault paint) entry = properties.foldl fillDefault paint := by
  induction properties generalizing paint with
  | nil => exact h
  | cons property properties ih => exact ih (mergeEntry_fillDefault h property)

/-- Among the declarations of a layer its layout is settled. -/
theorem mergeEntry_declarations (layer : Layer) :
    ∀ entry ∈ layer.mergedLayout, mergeEntry layer.declarations entry = layer.declarations := by
  intro entry hentry
  rw [declarations_eq]
  exact mergeEntry_foldl_fillDefault
    (foldl_settles mergeEntry mergeEntry_mergeEntry mergeEntry_keeps _ _ entry hentry) _

/-- Among the declarations of a layer the defaults are settled. -/
theorem fillDefault_declarations (layer : Layer) (property : Property) :
    fillDefault layer.declarations property = layer.declarations := by
  rw [declarations_eq]
  exact foldl_settles fillDefault fillDefault_fillDefault fillDefault_keeps _ _ property
    property.mem_all

/-- Gathering the declarations of a layer again changes nothing. -/
theorem normalize_normalize (layer : Layer) : layer.normalize.normalize = layer.normalize := by
  have hlayout : layer.normalize.mergedLayout = layer.mergedLayout := rfl
  have hdeclarations : layer.normalize.declarations = layer.declarations := by
    -- Neither pass over the declarations finds anything to do.
    rw [declarations_eq, getD_paint_normalize, hlayout,
      foldl_of_settled mergeEntry layer.mergeEntry_declarations,
      foldl_of_settled fillDefault fun property _ => layer.fillDefault_declarations property]
  unfold normalize at hdeclarations ⊢
  rw [hdeclarations]

/-! ## What stays and what is added -/

/-- What is declared as something else than null stays when a layout is merged. -/
theorem get?_foldl_mergeEntry_of_own {key : String} {json : Json}
    (hown : paint.get? key = some json) (hnull : json.isNull = false) (layout : Keyed Json) :
    (layout.foldl mergeEntry paint).get? key = some json := by
  induction layout generalizing paint with
  | nil => exact hown
  | cons entry layout ih =>
    refine ih ?_
    rw [get?_mergeEntry, hown, Json.unlessNull_some hnull, Option.some_or, ite_self]

/-- What is declared stays when defaults are filled in. -/
theorem get?_foldl_fillDefault_of_own {key : String} {json : Json}
    (hown : paint.get? key = some json) (properties : List Property) :
    (properties.foldl fillDefault paint).get? key = some json := by
  induction properties generalizing paint with
  | nil => exact hown
  | cons property properties ih =>
    refine ih ?_
    rw [get?_fillDefault, hown, Option.some_or]

/-- A key of merged entries was there before, or is the key of an entry. -/
theorem cases_of_contains_foldl_mergeEntry {layout : Keyed Json} {key : String}
    (h : Keyed.contains (layout.foldl mergeEntry paint) key = true) :
    paint.contains key = true ∨ Keyed.contains layout key = true := by
  rwa [contains_foldl_mergeEntry, Bool.or_eq_true] at h

/-- A key that is there when defaults are filled in was there before, or has a default. -/
theorem cases_of_contains_foldl_fillDefault {properties : List Property} {key : String}
    (h : Keyed.contains (properties.foldl fillDefault paint) key = true) :
    paint.contains key = true ∨
      ∃ property : Property, property.name = key ∧ property.default?.isSome = true := by
  induction properties generalizing paint with
  | nil => exact .inl h
  | cons property properties ih =>
    rcases ih h with hfilled | hdefault
    · rw [Keyed.contains, get?_fillDefault, Option.isSome_or, Bool.or_eq_true] at hfilled
      refine hfilled.imp_right fun hdefault => ?_
      split at hdefault
      next hname => exact ⟨property, hname, by simpa using hdefault⟩
      next => cases hdefault
    · exact .inr hdefault

/-! ## Structure and declarations -/

/-- The layer with the structure of the one it refers to, or as it is if that is not there. -/
def resolved (document : Document) (layer : Layer) : Layer :=
  (layer.inherit? document).getD layer

/-- The layer with its structure and all its declarations. -/
def prepare (document : Document) (layer : Layer) : Layer :=
  (layer.resolved document).normalize

/-- Taking over a structure leaves the id, the reference and the paint as they are. -/
theorem resolved_own (document : Document) (layer : Layer) :
    (layer.resolved document).id = layer.id ∧
      (layer.resolved document).reference = layer.reference ∧
      (layer.resolved document).paint = layer.paint := by
  unfold resolved inherit?
  split
  · exact ⟨rfl, rfl, rfl⟩
  · cases document.layer? _ <;> exact ⟨rfl, rfl, rfl⟩

/-- A layer that has its structure keeps it, whatever its paint. -/
theorem resolved_resolved_with_paint (document : Document) (layer : Layer)
    (paint : Option (Keyed Json)) :
    resolved document { layer.resolved document with paint := paint } =
      { layer.resolved document with paint := paint } := by
  unfold resolved inherit?
  cases hreference : layer.reference with
  | none => simp [hreference]
  | some id => cases htarget : document.layer? id <;> simp [hreference, htarget, withStructureOf]

/-- A prepared layer is prepared already. -/
theorem prepare_prepare (document : Document) (layer : Layer) :
    (layer.prepare document).prepare document = layer.prepare document := by
  have hresolved : (layer.prepare document).resolved document = layer.prepare document :=
    layer.resolved_resolved_with_paint document _
  rw [prepare, hresolved, prepare, normalize_normalize]

/-- So is every layer that a sheet is compiled from. -/
theorem prepare_of_mem_prepared {document : Document} {selection : LayerSelection} {layer : Layer}
    {index : Nat} (h : (layer, index) ∈ document.prepared selection) :
    layer.prepare document = layer := by
  obtain ⟨⟨original, position⟩, -, hselected⟩ := List.mem_filterMap.mp h
  obtain ⟨selected, hresolved, heq⟩ := Option.map_eq_some_iff.mp hselected
  cases heq
  have hinherit : original.inherit? document = some selected :=
    (Option.filter_eq_some_iff.mp hresolved).1
  have hprepare : original.prepare document = selected.normalize := by
    rw [prepare, resolved, hinherit, Option.getD_some]
  rw [← hprepare, prepare_prepare]

/-- Preparing layers settles. For every document and layer:

1. preparing the layer twice is the same as once, and so is gathering its declarations twice;
2. taking over a structure keeps the id, the reference and the paint, and where the reference names
   no layer it keeps everything;
3. gathering the declarations changes nothing but the paint. Of the paint it keeps what is not null,
   and a key that it adds is that of a property with a default, or it is in the layout of a layer
   without a reference. -/
theorem prepare_settles (document : Document) (layer : Layer) :
    ((layer.prepare document).prepare document = layer.prepare document ∧
        layer.normalize.normalize = layer.normalize) ∧
      ((layer.resolved document).id = layer.id ∧
        (layer.resolved document).reference = layer.reference ∧
        (layer.resolved document).paint = layer.paint ∧
        (layer.inherit? document = none → layer.resolved document = layer)) ∧
      ({ layer.normalize with paint := layer.paint } = layer ∧
        (∀ key json, (layer.paint.getD []).get? key = some json → json.isNull = false →
          (layer.normalize.paint.getD []).get? key = some json) ∧
        ∀ key, (layer.normalize.paint.getD []).contains key = true →
          (layer.paint.getD []).contains key = true ∨
            (layer.reference = none ∧ (layer.layout.getD []).contains key = true) ∨
            ∃ property : Property, property.name = key ∧ property.default?.isSome = true) := by
  obtain ⟨hid, hreference, hpaint⟩ := layer.resolved_own document
  refine ⟨⟨layer.prepare_prepare document, layer.normalize_normalize⟩, ⟨hid, hreference, hpaint, ?_⟩, rfl, ?_, ?_⟩
  · intro hnone
    rw [resolved, hnone, Option.getD_none]
  · intro key json hown hnull
    rw [getD_paint_normalize, declarations_eq]
    exact get?_foldl_fillDefault_of_own (get?_foldl_mergeEntry_of_own hown hnull _) _
  · intro key hkey
    rw [getD_paint_normalize, declarations_eq] at hkey
    rcases cases_of_contains_foldl_fillDefault hkey with hmerged | hdefault
    · apply (cases_of_contains_foldl_mergeEntry hmerged).imp_right
      intro hlaid
      apply Or.inl
      unfold mergedLayout at hlaid
      split at hlaid
      next hnone => exact ⟨Option.isNone_iff_eq_none.mp hnone, hlaid⟩
      next => cases hlaid
    · exact .inr (.inr hdefault)

end Layer

end MapStyling
