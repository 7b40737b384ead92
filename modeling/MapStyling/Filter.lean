import MapStyling.Value.Compare
import MapStyling.Feature
import MapStyling.Names
import MapStyling.Json.Printer

/-!
# Filters

A layer's filter decides which features it draws. It is written as a JSON array with an operator in
front (`Filter.ofJson`). Reading never fails: what is malformed becomes an `unknown` node, and such a
node holds of no feature.
-/

namespace MapStyling

/-- How a filter compares an attribute with a literal. -/
inductive Comparison where
  | eq
  | ne
  | gt
  | lt
  | ge
  | le
deriving DecidableEq, Repr

/-- The comparison of an operator. -/
def Comparison.ofSymbol? : String → Option Comparison
  | "==" => some .eq
  | "!=" => some .ne
  | ">" => some .gt
  | "<" => some .lt
  | ">=" => some .ge
  | "<=" => some .le
  | _ => none

/-- Whether a comparison holds between the value of an attribute and a literal. -/
def Comparison.holds (op : Comparison) (actual literal : Value) : Bool :=
  match op with
  | .eq => actual.looseEq literal
  | .ne => !actual.looseEq literal
  | .gt => actual.looseCompare? literal == some .gt
  | .lt => actual.looseCompare? literal == some .lt
  | .ge => actual.looseCompare? literal == some .gt || actual.looseCompare? literal == some .eq
  | .le => actual.looseCompare? literal == some .lt || actual.looseCompare? literal == some .eq

/-- A filter. -/
inductive Filter where
  /-- Compares an attribute with a literal. -/
  | compare (op : Comparison) (key : String) (literal : Value)
  /-- Whether an attribute is one of some literals, or with `negate` none of them. -/
  | member (key : String) (literals : List Value) (negate : Bool)
  /-- Whether a feature has an attribute, or with `negate` has not. -/
  | has (key : String) (negate : Bool)
  /-- Whether every filter of a list holds. -/
  | allOf (filters : List Filter)
  /-- Whether some filter of a list holds. -/
  | anyOf (filters : List Filter)
  /-- Whether no filter of a list holds. -/
  | noneOf (filters : List Filter)
  /-- An operator that is not known, or that is known but malformed. -/
  | unknown (operator : String)

namespace Filter

/-- A filter without filters inside it, from its operator and what follows that. -/
def leaf? (op : String) : List Json → Option Filter
  | .string key :: rest =>
    match op, rest with
    | "in", literals => some (.member key (Value.ofItems literals) false)
    | "!in", literals => some (.member key (Value.ofItems literals) true)
    | "has", [] => some (.has key false)
    | "!has", [] => some (.has key true)
    | op, [literal] => (Comparison.ofSymbol? op).map (.compare · key (Value.ofJson literal))
    | _, _ => none
  | _ => none

mutual
/-- Reads a filter. -/
def ofJson : Json → Filter
  | .array (.string op :: rest) =>
    if op = "all" then .allOf (ofItems rest)
    else if op = "any" then .anyOf (ofItems rest)
    else if op = "none" then .noneOf (ofItems rest)
    else (leaf? op rest).getD (.unknown op)
  | json => .unknown json.print
/-- Reads the filters of a list. -/
def ofItems : List Json → List Filter
  | [] => []
  | json :: rest => ofJson json :: ofItems rest
end

mutual
/-- Whether a filter holds of a feature. A comparison of an attribute that is missing holds only for
`!=`. -/
def holds (attributes : Attributes) : Filter → Bool
  | .compare op key literal =>
    match attributes key with
    | none => op = .ne
    | some actual => op.holds actual literal
  | .member key literals negate =>
    let found := match attributes key with
      | none => false
      | some actual => literals.any (actual.looseEq ·)
    found != negate
  | .has key negate => (attributes key).isSome != negate
  | .allOf filters => allHold attributes filters
  | .anyOf filters => anyHolds attributes filters
  | .noneOf filters => !anyHolds attributes filters
  | .unknown _ => false
/-- Whether every filter of a list holds. -/
def allHold (attributes : Attributes) : List Filter → Bool
  | [] => true
  | f :: fs => f.holds attributes && allHold attributes fs
/-- Whether some filter of a list holds. -/
def anyHolds (attributes : Attributes) : List Filter → Bool
  | [] => false
  | f :: fs => f.holds attributes || anyHolds attributes fs
end

mutual
/-- The names of the attributes that a filter looks at, from left to right. -/
def keys : Filter → List String
  | .compare _ key _ | .member key _ _ | .has key _ => [key]
  | .allOf filters | .anyOf filters | .noneOf filters => keysAll filters
  | .unknown _ => []
/-- The names of the attributes that the filters of a list look at. -/
def keysAll : List Filter → List String
  | [] => []
  | f :: fs => f.keys ++ keysAll fs
end

mutual
/-- The operators of the unknown nodes of a filter, from left to right. -/
def unknowns : Filter → List String
  | .unknown operator => [operator]
  | .allOf filters | .anyOf filters | .noneOf filters => unknownsAll filters
  | .compare .. | .member .. | .has .. => []
/-- The operators of the unknown nodes of the filters of a list. -/
def unknownsAll : List Filter → List String
  | [] => []
  | f :: fs => f.unknowns ++ unknownsAll fs
end

/-- The set of the attributes that a filter looks at. -/
def attributeNames (filter : Filter) : List String :=
  Names.ofList filter.keys

theorem ofItems_eq_map (items : List Json) : ofItems items = items.map ofJson := by
  induction items with
  | nil => rfl
  | cons json rest ih => simp [ofItems, ih]

theorem allHold_eq_all (attributes : Attributes) (filters : List Filter) :
    allHold attributes filters = filters.all (·.holds attributes) := by
  induction filters with
  | nil => rfl
  | cons f fs ih => simp [allHold, ih]

theorem anyHolds_eq_any (attributes : Attributes) (filters : List Filter) :
    anyHolds attributes filters = filters.any (·.holds attributes) := by
  induction filters with
  | nil => rfl
  | cons f fs ih => simp [anyHolds, ih]

/-- A filter looks at an attribute exactly when the set of its attributes has the name. -/
theorem mem_attributeNames {filter : Filter} {name : String} :
    name ∈ filter.attributeNames ↔ name ∈ filter.keys :=
  Names.mem_ofList

end Filter

end MapStyling
