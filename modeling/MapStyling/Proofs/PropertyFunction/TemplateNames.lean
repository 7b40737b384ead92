import Mathlib
import MapStyling.Property
import MapStyling.Proofs.Outputs
import MapStyling.Proofs.Template

/-!
# Names that are collected

The names in the texts of a declaration are collected without compiling it, from the texts that stand
anywhere in it (`Json.HasText`). A function that is compiled from the declaration keeps some of these
texts only, but gives no others, so what is collected has all the names of what it gives
(`PropertyFunction.mem_keysIn_of_evaluate`). Two kinds of texts are not from the declaration: that of
an attribute that is passed on (`PropertyFunction.PassesOn`), and the fallback, which is without
names for every property (`Property.not_mem_of_default?`).
-/

namespace MapStyling

/-- A text stands in a JSON value, at any depth. The keys of objects do not count. -/
inductive Json.HasText : Json → String → Prop
  | here {text : String} : HasText (.string text) text
  | item {items : List Json} {json : Json} {text : String} :
    json ∈ items → HasText json text → HasText (.array items) text
  | member {members : Keyed Json} {entry : String × Json} {text : String} :
    entry ∈ members → HasText entry.2 text → HasText (.object members) text

namespace Template

variable {name : String}

theorem mem_keysIn_string {text : String} :
    name ∈ keysIn (.string text) ↔ name ∈ keys text ∧ name ≠ "" := by
  rw [keysIn, List.mem_filter, decide_eq_true_iff]

/-- The names of a text that stands in a value are collected, but for the empty one. -/
theorem mem_keysIn_of_hasText {json : Json} {text : String} (h : json.HasText text)
    (hname : name ∈ keys text) (hne : name ≠ "") : name ∈ keysIn json := by
  induction h with
  | here => exact mem_keysIn_string.mpr ⟨hname, hne⟩
  | item hitem _ ih => exact mem_keysIn_of_item hitem (ih hname)
  | member hmember _ ih => exact mem_keysInMembers.mpr ⟨_, hmember, ih hname⟩

mutual
/-- What is collected is a name of some text that stands in the value. -/
theorem exists_text_of_mem_keysIn (json : Json) (h : name ∈ keysIn json) :
    ∃ text, json.HasText text ∧ name ∈ keys text ∧ name ≠ "" := by
  match json with
  | .string text => exact ⟨text, .here, mem_keysIn_string.mp h⟩
  | .array items =>
    obtain ⟨json, hitem, text, htext, hname⟩ := exists_text_of_mem_keysInItems items h
    exact ⟨text, .item hitem htext, hname⟩
  | .object members =>
    obtain ⟨entry, hmember, text, htext, hname⟩ := exists_text_of_mem_keysInMembers members h
    exact ⟨text, .member hmember htext, hname⟩
  | .null | .bool _ | .number _ => cases h
theorem exists_text_of_mem_keysInItems (items : List Json) (h : name ∈ keysInItems items) :
    ∃ json ∈ items, ∃ text, json.HasText text ∧ name ∈ keys text ∧ name ≠ "" := by
  match items with
  | [] => cases h
  | json :: items =>
    rcases List.mem_append.mp h with hjson | hitems
    · exact ⟨json, List.mem_cons_self, exists_text_of_mem_keysIn json hjson⟩
    · obtain ⟨json', hitem, htext⟩ := exists_text_of_mem_keysInItems items hitems
      exact ⟨json', List.mem_cons_of_mem _ hitem, htext⟩
theorem exists_text_of_mem_keysInMembers (members : Keyed Json) (h : name ∈ keysInMembers members) :
    ∃ entry ∈ members, ∃ text, entry.2.HasText text ∧ name ∈ keys text ∧ name ≠ "" := by
  match members with
  | [] => cases h
  | (key, json) :: members =>
    rcases List.mem_append.mp h with hjson | hmembers
    · exact ⟨(key, json), List.mem_cons_self, exists_text_of_mem_keysIn json hjson⟩
    · obtain ⟨entry, hmember, htext⟩ := exists_text_of_mem_keysInMembers members hmembers
      exact ⟨entry, List.mem_cons_of_mem _ hmember, htext⟩
end

/-- The names that are collected are those of the texts in a value, but for the empty one. -/
theorem mem_keysIn_iff (json : Json) :
    name ∈ keysIn json ↔ name ≠ "" ∧ ∃ text, json.HasText text ∧ name ∈ keys text := by
  constructor
  · intro h
    obtain ⟨text, htext, hname, hne⟩ := exists_text_of_mem_keysIn json h
    exact ⟨hne, text, htext, hname⟩
  · rintro ⟨hne, text, htext, hname⟩
    exact mem_keysIn_of_hasText htext hname hne

/-- A text without an opening brace has no names. -/
theorem keys_eq_nil_of_not_mem {text : String} (h : '\x7b' ∉ text.toList) : keys text = [] :=
  keys_eq_nil_iff.mpr (unclosed_of_not_mem h)

end Template

/-- No brace opens in what a property is where nothing is declared. -/
theorem Property.not_mem_of_default? (property : Property) (text : String)
    (h : property.default? = some (.string text)) : '\x7b' ∉ text.toList := by
  cases property <;> cases h <;> decide

namespace PropertyFunction

/-- A function passes an attribute on as it is. -/
def PassesOn (function : PropertyFunction) (attributes : Attributes) : Prop :=
  ∃ name default value, function = .attribute name .identity default ∧ attributes name = some value

/-- A text that is not passed on is the fallback, or stands in the declaration. -/
theorem evaluate_compile_eq_string {declaration : Json} {kind : StopKind} {fallback : Option Value}
    {zoom : Float} {attributes : Attributes} {text : String}
    (hpassed : ¬(compile declaration kind fallback).PassesOn attributes)
    (h : (compile declaration kind fallback).evaluate zoom attributes = .string text) :
    fallback = some (.string text) ∨ WrittenIn declaration (.string text) := by
  rcases evaluate_eq_string h with hmem | ⟨name, default, hfunction, hattribute⟩
  · rcases mem_outputs_compile hmem with hfallback | hnull | hwritten
    · exact .inl hfallback.symm
    · cases hnull
    · exact .inr hwritten
  · exact absurd ⟨name, default, _, hfunction, hattribute⟩ hpassed

/-- What is collected of a declaration, in two parts.
1. Every text that its function gives has its names collected, but for the empty one. An attribute
   that is passed on is excepted, and the fallback has to be without opening braces.
2. To the names that are given, those of the texts in the declaration are added, at any depth and but
   for the empty one. No others are added, and none are lost. -/
theorem mem_keysIn_of_evaluate (declaration : Json) :
    (∀ kind fallback zoom attributes text,
      (∀ written, fallback = some (.string written) → '\x7b' ∉ written.toList) →
      ¬(compile declaration kind fallback).PassesOn attributes →
      (compile declaration kind fallback).evaluate zoom attributes = .string text →
      ∀ name ∈ Template.keys text, name ≠ "" → name ∈ Template.keysIn declaration) ∧
    ∀ seen name, name ∈ Names.union seen (Template.keysIn declaration) ↔
      name ∈ seen ∨ name ≠ "" ∧ ∃ text, declaration.HasText text ∧ name ∈ Template.keys text := by
  constructor
  · intro kind fallback zoom attributes text hfallback hpassed hevaluate name hname hne
    rcases evaluate_compile_eq_string hpassed hevaluate with hsame | hwritten
    · rw [Template.keys_eq_nil_of_not_mem (hfallback text hsame)] at hname
      cases hname
    · exact hwritten.mem_keysIn hname hne
  · intro seen name
    rw [Names.mem_union, Template.mem_keysIn_iff]

/-- A label with two names in it, of which one is collected already. -/
theorem mem_keysIn_of_evaluate_road :
    let template := "\x7bname\x7d (\x7bref\x7d)"
    let stops : Json := .array [.array [.string "road", .string template]]
    let declaration : Json := .object
      [("property", .string "class"), ("stops", stops), ("type", .string "categorical")]
    let attributes := Attributes.ofPairs [("class", .string "road")]
    let function := compile declaration .piecewise Property.textField.default?
    ¬function.PassesOn attributes ∧
      function.evaluate 12 attributes = .string template ∧
      Template.keys template = ["name", "ref"] ∧
      "ref" ∈ Template.keysIn declaration ∧
      "name" ∈ Names.union ["ref"] (Template.keysIn declaration) := by
  intro template stops declaration attributes function
  obtain ⟨hcollected, hunion⟩ := mem_keysIn_of_evaluate declaration
  have hcategorical : function =
      .attribute "class" (.categorical [(.string "road", .string template)]) .null := rfl
  have hpassed : ¬function.PassesOn attributes := by
    rintro ⟨name, default, value, hfunction, -⟩
    rw [hcategorical] at hfunction
    cases hfunction
  have hevaluate : function.evaluate 12 attributes = .string template := rfl
  have hkeys : Template.keys template = ["name", "ref"] := by decide +kernel
  refine ⟨hpassed, hevaluate, hkeys, ?_, ?_⟩
  · exact hcollected .piecewise _ 12 attributes template Property.textField.not_mem_of_default?
      hpassed hevaluate "ref" (by simp [hkeys]) (by decide)
  · have htext : declaration.HasText template :=
      .member (List.mem_cons_of_mem _ List.mem_cons_self)
        (.item List.mem_cons_self (.item (List.mem_cons_of_mem _ List.mem_cons_self) .here))
    exact (hunion ["ref"] "name").mpr (.inr ⟨by decide, template, htext, by simp [hkeys]⟩)

end PropertyFunction

end MapStyling
