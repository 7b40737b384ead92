import MapStyling.Filter

/-!
# The grammar of filters

The filters that can be written in JSON:

    F ::= ["all" | "any" | "none", F*]
        | ["in" | "!in", string, json*]
        | ["has" | "!has", string]
        | ["==" | "!=" | ">" | "<" | ">=" | "<=", string, json]

A `Filter.Sentence` is a derivation in this grammar. It is written as a JSON value (`Sentence.json`)
and stands for a filter (`Sentence.filter`) of the same combinators, keys, negations and literals in
the same order. Reading finds the filter of every sentence, and leaves an unknown node in everything
else (`Filter.ofJson_grammar`).
-/

namespace MapStyling

/-- The operator of a comparison. -/
def Comparison.symbol : Comparison → String
  | .eq => "=="
  | .ne => "!="
  | .gt => ">"
  | .lt => "<"
  | .ge => ">="
  | .le => "<="

theorem Comparison.symbol_of_ofSymbol? {symbol : String} {op : Comparison}
    (h : ofSymbol? symbol = some op) : op.symbol = symbol := by
  unfold ofSymbol? at h
  split at h <;> cases h <;> rfl

namespace Filter

/-- How filters are put together. -/
inductive Combinator where
  | all
  | any
  | none

/-- The operator of a combinator. -/
def Combinator.symbol : Combinator → String
  | .all => "all"
  | .any => "any"
  | .none => "none"

/-- The filter that a combinator makes of others. -/
def Combinator.combine : Combinator → List Filter → Filter
  | .all => .allOf
  | .any => .anyOf
  | .none => .noneOf

/-- A derivation in the grammar of filters. -/
inductive Sentence where
  | combination (op : Combinator) (parts : List Sentence)
  | membership (negate : Bool) (key : String) (literals : List Json)
  | presence (negate : Bool) (key : String)
  | comparison (op : Comparison) (key : String) (literal : Json)

namespace Sentence

mutual
/-- How a sentence is written. -/
def json : Sentence → Json
  | .combination op parts => .array (.string op.symbol :: jsonItems parts)
  | .membership negate key literals =>
    .array (.string (if negate then "!in" else "in") :: .string key :: literals)
  | .presence negate key => .array [.string (if negate then "!has" else "has"), .string key]
  | .comparison op key literal => .array [.string op.symbol, .string key, literal]
/-- How the sentences of a list are written. -/
def jsonItems : List Sentence → List Json
  | [] => []
  | s :: ss => s.json :: jsonItems ss
end

mutual
/-- The filter that a sentence stands for. -/
def filter : Sentence → Filter
  | .combination op parts => op.combine (filters parts)
  | .membership negate key literals => .member key (literals.map Value.ofJson) negate
  | .presence negate key => .has key negate
  | .comparison op key literal => .compare op key (Value.ofJson literal)
/-- The filters that the sentences of a list stand for. -/
def filters : List Sentence → List Filter
  | [] => []
  | s :: ss => s.filter :: filters ss
end

end Sentence

/-! ## Sentences are read -/

/-- What follows the operator of a combinator is read item by item. -/
theorem ofJson_combinator (op : Combinator) (items : List Json) :
    ofJson (.array (.string op.symbol :: items)) = op.combine (ofItems items) := by
  cases op <;> rfl

theorem ofJson_membership (negate : Bool) (key : String) (literals : List Json) :
    ofJson (.array (.string (if negate then "!in" else "in") :: .string key :: literals)) =
      .member key (literals.map Value.ofJson) negate := by
  rw [← Value.ofItems_eq_map]
  cases negate <;> rfl

theorem ofJson_presence (negate : Bool) (key : String) :
    ofJson (.array [.string (if negate then "!has" else "has"), .string key]) =
      .has key negate := by
  cases negate <;> rfl

theorem ofJson_comparison (op : Comparison) (key : String) (literal : Json) :
    ofJson (.array [.string op.symbol, .string key, literal]) =
      .compare op key (Value.ofJson literal) := by
  cases op <;> rfl

namespace Sentence

mutual
/-- Reading finds the filter of a sentence. -/
theorem ofJson_json (s : Sentence) : ofJson s.json = s.filter := by
  match s with
  | .combination op parts =>
    rw [json, filter, ofJson_combinator, ofItems_jsonItems parts]
  | .membership negate key literals => rw [json, filter, ofJson_membership]
  | .presence negate key => rw [json, filter, ofJson_presence]
  | .comparison op key literal => rw [json, filter, ofJson_comparison]
theorem ofItems_jsonItems (ss : List Sentence) : ofItems (jsonItems ss) = filters ss := by
  match ss with
  | [] => rfl
  | s :: ss => rw [jsonItems, filters, ofItems, ofJson_json s, ofItems_jsonItems ss]
end

theorem unknowns_combine (op : Combinator) (filters : List Filter) :
    (op.combine filters).unknowns = unknownsAll filters := by
  cases op <;> rfl

mutual
/-- The filter of a sentence has no unknown node. -/
theorem unknowns_filter (s : Sentence) : s.filter.unknowns = [] := by
  match s with
  | .combination op parts => rw [filter, unknowns_combine, unknownsAll_filters parts]
  | .membership negate key literals => rfl
  | .presence negate key => rfl
  | .comparison op key literal => rfl
theorem unknownsAll_filters (ss : List Sentence) : unknownsAll (filters ss) = [] := by
  match ss with
  | [] => rfl
  | s :: ss => rw [filters, unknownsAll, unknowns_filter s, unknownsAll_filters ss, List.nil_append]
end

end Sentence

/-! ## Nothing else is -/

/-- What is read as a filter without filters inside it is a sentence. -/
theorem exists_sentence_of_leaf? {op : String} {rest : List Json} {filter : Filter}
    (h : leaf? op rest = some filter) :
    ∃ s : Sentence, s.json = .array (.string op :: rest) := by
  unfold leaf? at h
  split at h
  next key rest =>
    split at h
    next => exact ⟨.membership false key rest, rfl⟩
    next => exact ⟨.membership true key rest, rfl⟩
    next => exact ⟨.presence false key, rfl⟩
    next => exact ⟨.presence true key, rfl⟩
    next literal _ _ =>
      obtain ⟨comparison, hsymbol, -⟩ := Option.map_eq_some_iff.mp h
      refine ⟨.comparison comparison key literal, ?_⟩
      rw [Sentence.json, Comparison.symbol_of_ofSymbol? hsymbol]
    next => cases h
  next => cases h

mutual
/-- What is read without an unknown node is a sentence. -/
theorem exists_sentence (json : Json) (h : (ofJson json).unknowns = []) :
    ∃ s : Sentence, s.json = json := by
  match json with
  | .array (.string op :: rest) =>
    by_cases hcombinator : ∃ combinator : Combinator, combinator.symbol = op
    · obtain ⟨combinator, rfl⟩ := hcombinator
      rw [ofJson_combinator, Sentence.unknowns_combine] at h
      obtain ⟨parts, hparts⟩ := exists_sentences rest h
      exact ⟨.combination combinator parts, by rw [Sentence.json, hparts]⟩
    · have hall : op ≠ "all" := fun heq => hcombinator ⟨.all, heq.symm⟩
      have hany : op ≠ "any" := fun heq => hcombinator ⟨.any, heq.symm⟩
      have hnone : op ≠ "none" := fun heq => hcombinator ⟨.none, heq.symm⟩
      simp only [ofJson, if_neg hall, if_neg hany, if_neg hnone] at h
      cases hleaf : leaf? op rest with
      | none => simp [hleaf, unknowns] at h
      | some filter => exact exists_sentence_of_leaf? hleaf
  | .array [] | .array (.null :: _) | .array (.bool _ :: _) | .array (.number _ :: _)
  | .array (.array _ :: _) | .array (.object _ :: _) | .null | .bool _ | .number _ | .string _
  | .object _ => simp [ofJson, unknowns] at h
theorem exists_sentences (items : List Json) (h : unknownsAll (ofItems items) = []) :
    ∃ ss : List Sentence, Sentence.jsonItems ss = items := by
  match items with
  | [] => exact ⟨[], rfl⟩
  | json :: rest =>
    rw [ofItems, unknownsAll, List.append_eq_nil_iff] at h
    obtain ⟨s, hs⟩ := exists_sentence json h.1
    obtain ⟨ss, hss⟩ := exists_sentences rest h.2
    exact ⟨s :: ss, by rw [Sentence.jsonItems, hs, hss]⟩
end

/-- Reading finds unknown nodes in exactly the JSON values that are no sentences of the grammar. What
it makes of a sentence is the filter that the sentence stands for: the combinators, keys, negations
and literals that are written, in the order in which they are. -/
theorem ofJson_grammar (json : Json) :
    ((ofJson json).unknowns = [] ↔ ∃ s : Sentence, s.json = json) ∧
      ∀ s : Sentence, s.json = json → ofJson json = s.filter := by
  refine ⟨⟨exists_sentence json, ?_⟩, ?_⟩
  · rintro ⟨s, rfl⟩
    rw [s.ofJson_json, s.unknowns_filter]
  · rintro s rfl
    exact s.ofJson_json

end Filter

end MapStyling
