import MapStyling.Proofs.Filter.Grammar

/-!
# The algebra of filters

Three kinds of filters are enough: a comparison for equality, a test for presence and the combinator
`any`. Each negated operator is the negation of its partner, and membership in a list of literals is
equality with one of them (`Filter.accepts_algebra`). All of it holds of filters as they are written,
for any attributes and any sub-filters, malformed ones included.
-/

namespace MapStyling

namespace Filter

variable (attributes : Attributes)

/-! ## Filters that are read -/

/-- Equality fails without the attribute. -/
theorem holds_compare_eq (key : String) (literal : Value) :
    (compare .eq key literal).holds attributes = (attributes key).any (·.looseEq literal) := by
  rw [holds]
  cases attributes key <;> rfl

/-- Inequality holds without the attribute, as a negation does. -/
theorem holds_compare_ne (key : String) (literal : Value) :
    (compare .ne key literal).holds attributes = !(compare .eq key literal).holds attributes := by
  rw [holds_compare_eq, holds]
  cases attributes key <;> rfl

/-- Membership is equality with one of the literals. -/
theorem holds_member (key : String) (literals : List Value) (negate : Bool) :
    (member key literals negate).holds attributes =
      ((literals.any fun literal => (compare .eq key literal).holds attributes) != negate) := by
  simp only [holds_compare_eq]
  rw [holds]
  cases attributes key with
  | none =>
    have hnone : (literals.any fun literal => Option.any (Value.looseEq · literal) none) = false :=
      List.any_eq_false.mpr fun _ _ => Bool.false_ne_true
    rw [hnone]
  | some actual => rfl

/-! ## Filters that are written -/

/-- Whether the features with some attributes pass the filter that is written as an operator and its
operands. -/
def accepts (op : String) (operands : List Json) : Bool :=
  (ofJson (.array (.string op :: operands))).holds attributes

theorem accepts_all (filters : List Json) :
    accepts attributes "all" filters =
      filters.all fun filter => (ofJson filter).holds attributes := by
  have hread : ofJson (.array (.string "all" :: filters)) = .allOf (ofItems filters) :=
    ofJson_combinator .all filters
  rw [accepts, hread, holds, allHold_eq_all, ofItems_eq_map, List.all_map]
  rfl

theorem accepts_any (filters : List Json) :
    accepts attributes "any" filters =
      filters.any fun filter => (ofJson filter).holds attributes := by
  have hread : ofJson (.array (.string "any" :: filters)) = .anyOf (ofItems filters) :=
    ofJson_combinator .any filters
  rw [accepts, hread, holds, anyHolds_eq_any, ofItems_eq_map, List.any_map]
  rfl

/-- No filter of a list holds exactly when not any of them does. -/
theorem accepts_none (filters : List Json) :
    accepts attributes "none" filters = !accepts attributes "any" filters := by
  have hread : ofJson (.array (.string "none" :: filters)) = .noneOf (ofItems filters) :=
    ofJson_combinator .none filters
  rw [accepts, hread, holds, anyHolds_eq_any, ofItems_eq_map, List.any_map, accepts_any]
  rfl

theorem accepts_eq (key : String) (literal : Json) :
    accepts attributes "==" [.string key, literal] =
      (compare .eq key (Value.ofJson literal)).holds attributes :=
  congrArg (holds attributes) (ofJson_comparison .eq key literal)

theorem accepts_ne (key : String) (literal : Json) :
    accepts attributes "!=" [.string key, literal] =
      !accepts attributes "==" [.string key, literal] := by
  have hread : ofJson (.array [.string "!=", .string key, literal]) =
      .compare .ne key (Value.ofJson literal) := ofJson_comparison .ne key literal
  rw [accepts_eq, accepts, hread, holds_compare_ne]

/-- Membership in no literals at all fails, and the negation of that holds. -/
theorem accepts_membership (negate : Bool) (key : String) (literals : List Json) :
    accepts attributes (if negate then "!in" else "in") (.string key :: literals) =
      ((literals.any fun literal => accepts attributes "==" [.string key, literal]) != negate) := by
  rw [accepts, ofJson_membership, holds_member, List.any_map]
  simp only [Function.comp_def, accepts_eq]

theorem accepts_presence (negate : Bool) (key : String) :
    accepts attributes (if negate then "!has" else "has") [.string key] =
      ((attributes key).isSome != negate) := by
  rw [accepts, ofJson_presence, holds]

/-- One comparison for each literal of a list. -/
def comparisons (op key : String) (literals : List Json) : List Json :=
  literals.map fun literal => .array [.string op, .string key, literal]

theorem any_comparisons (op key : String) (literals : List Json) :
    accepts attributes "any" (comparisons op key literals) =
      literals.any fun literal => accepts attributes op [.string key, literal] := by
  rw [accepts_any, comparisons, List.any_map]
  rfl

theorem all_comparisons (op key : String) (literals : List Json) :
    accepts attributes "all" (comparisons op key literals) =
      literals.all fun literal => accepts attributes op [.string key, literal] := by
  rw [accepts_all, comparisons, List.all_map]
  rfl

/-- The equations between the written filters:

1. `!=`, `!in`, `!has` and `none` are the negations of `==`, `in`, `has` and `any`;
2. `in` is the `any` of one `==` for each literal;
3. `!in` is the `all` of one `!=` for each literal, and the `none` of one `==` for each literal.

The operators they come down to mean what they say: `==` finds an attribute that loosely equals the
literal, `has` finds an attribute, and `any` finds a filter of its list that holds. -/
theorem accepts_algebra (key : String) (literal : Json) (literals filters : List Json) :
    (accepts attributes "!=" [.string key, literal] =
        !accepts attributes "==" [.string key, literal] ∧
      accepts attributes "!in" (.string key :: literals) =
        !accepts attributes "in" (.string key :: literals) ∧
      accepts attributes "!has" [.string key] = !accepts attributes "has" [.string key] ∧
      accepts attributes "none" filters = !accepts attributes "any" filters) ∧
    accepts attributes "in" (.string key :: literals) =
      accepts attributes "any" (comparisons "==" key literals) ∧
    (accepts attributes "!in" (.string key :: literals) =
        accepts attributes "all" (comparisons "!=" key literals) ∧
      accepts attributes "!in" (.string key :: literals) =
        accepts attributes "none" (comparisons "==" key literals)) ∧
    accepts attributes "==" [.string key, literal] =
      (attributes key).any (·.looseEq (Value.ofJson literal)) ∧
    accepts attributes "has" [.string key] = (attributes key).isSome ∧
    accepts attributes "any" filters =
      filters.any fun filter => (ofJson filter).holds attributes := by
  have hin := accepts_membership attributes false key literals
  have hnotIn := accepts_membership attributes true key literals
  have hhas := accepts_presence attributes false key
  have hnotHas := accepts_presence attributes true key
  simp only [Bool.false_eq_true, if_true, if_false, Bool.bne_false, Bool.bne_true]
    at hin hnotIn hhas hnotHas
  refine ⟨⟨?_, ?_, ?_, ?_⟩, ?_, ⟨?_, ?_⟩, ?_, hhas, accepts_any attributes filters⟩
  · exact accepts_ne attributes key literal
  · rw [hnotIn, hin]
  · rw [hnotHas, hhas]
  · exact accepts_none attributes filters
  · rw [hin, any_comparisons]
  · -- de Morgan: no literal equals the attribute when all of them differ from it
    rw [hnotIn, all_comparisons, List.not_any_eq_all_not]
    simp only [accepts_ne]
  · rw [hnotIn, accepts_none, any_comparisons]
  · rw [accepts_eq, holds_compare_eq]

end Filter

end MapStyling
