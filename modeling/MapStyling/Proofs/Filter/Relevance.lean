import MapStyling.Proofs.Value.Loose
import MapStyling.Filter

/-!
# What a filter looks at

A filter looks at the attributes that it names and at no others, and of these it sees no more than
their equality shows (`Filter.holds_eq_of_alike_attributeNames`). Two stores that hold the same
values under these names, or equal ones of one kind, are the same to it, whatever they hold besides.
-/

namespace MapStyling

/-- What two stores have under a name is the same, or equal; it may be missing in both. -/
def Alike (v w : Option Value) : Prop :=
  v = w ∨ Value.sameAttribute v w = true

/-- Alike look-ups give both no value, or both one, and then neither equality nor order tells the
values apart. -/
theorem Alike.cases {v w : Option Value} (h : Alike v w) :
    v = none ∧ w = none ∨ ∃ a b, v = some a ∧ w = some b ∧
      (∀ u, a.looseEq u = b.looseEq u) ∧ ∀ u, a.looseCompare? u = b.looseCompare? u := by
  rcases h with rfl | h
  · cases v with
    | none => exact .inl ⟨rfl, rfl⟩
    | some a => exact .inr ⟨a, a, rfl, rfl, fun _ => rfl, fun _ => rfl⟩
  · match v, w with
    | none, none => exact .inl ⟨rfl, rfl⟩
    | some a, some b =>
      exact .inr ⟨a, b, rfl, rfl, a.looseEq_congr_of_same b h, Value.looseCompare?_congr_of_same h⟩

/-- A comparison with a literal comes out the same for values that neither equality nor order tells
apart. -/
theorem Comparison.holds_congr {a b : Value} (heq : ∀ u, a.looseEq u = b.looseEq u)
    (hcompare : ∀ u, a.looseCompare? u = b.looseCompare? u) (op : Comparison) (literal : Value) :
    op.holds a literal = op.holds b literal := by
  cases op <;> simp only [holds, heq, hcompare]

namespace Filter

variable {s t : Attributes}

mutual
/-- A filter looks at the attributes of its keys alone, and does not tell apart what is alike. -/
theorem holds_congr_of_alike (filter : Filter) (h : ∀ key ∈ filter.keys, Alike (s key) (t key)) :
    filter.holds s = filter.holds t := by
  match filter with
  | .compare op key literal =>
    rcases (h key (List.mem_singleton_self key)).cases with
      ⟨hs, ht⟩ | ⟨a, b, hs, ht, heq, hcompare⟩
    · simp only [holds, hs, ht]
    · simp only [holds, hs, ht, op.holds_congr heq hcompare]
  | .member key literals negate =>
    rcases (h key (List.mem_singleton_self key)).cases with ⟨hs, ht⟩ | ⟨a, b, hs, ht, heq, -⟩
    · simp only [holds, hs, ht]
    · simp only [holds, hs, ht, heq]
  | .has key negate =>
    rcases (h key (List.mem_singleton_self key)).cases with ⟨hs, ht⟩ | ⟨a, b, hs, ht, -, -⟩
    · simp only [holds, hs, ht]
    · simp only [holds, hs, ht, Option.isSome_some]
  | .allOf filters => exact allHold_congr_of_alike filters h
  | .anyOf filters => exact anyHolds_congr_of_alike filters h
  | .noneOf filters => exact congrArg (!·) (anyHolds_congr_of_alike filters h)
  | .unknown operator => rfl
theorem allHold_congr_of_alike (filters : List Filter)
    (h : ∀ key ∈ keysAll filters, Alike (s key) (t key)) :
    allHold s filters = allHold t filters := by
  match filters with
  | [] => rfl
  | f :: fs =>
    have hfirst := holds_congr_of_alike f fun key hkey => h key (List.mem_append_left _ hkey)
    have hrest := allHold_congr_of_alike fs fun key hkey => h key (List.mem_append_right _ hkey)
    rw [allHold, allHold, hfirst, hrest]
theorem anyHolds_congr_of_alike (filters : List Filter)
    (h : ∀ key ∈ keysAll filters, Alike (s key) (t key)) :
    anyHolds s filters = anyHolds t filters := by
  match filters with
  | [] => rfl
  | f :: fs =>
    have hfirst := holds_congr_of_alike f fun key hkey => h key (List.mem_append_left _ hkey)
    have hrest := anyHolds_congr_of_alike fs fun key hkey => h key (List.mem_append_right _ hkey)
    rw [anyHolds, anyHolds, hfirst, hrest]
end

/-- Whether a filter holds is settled by the attributes that it is said to look at. On two stores
that have the same value or equal values under each of these names, or nothing in both, it comes out
the same, whatever the stores have besides. -/
theorem holds_eq_of_alike_attributeNames (filter : Filter)
    (h : ∀ name ∈ filter.attributeNames, Alike (s name) (t name)) :
    filter.holds s = filter.holds t :=
  filter.holds_congr_of_alike fun key hkey => h key (mem_attributeNames.mpr hkey)

/-- Parks and woods without a name, that are not known to be far up or below a rank. -/
def quietGreens : Filter :=
  .allOf [
    .compare .eq geometryAttribute (.string "Polygon"),
    .anyOf [.member "class" [.string "park", .string "wood"] false, .has "name" true],
    .noneOf [.compare .gt "height" (.number 300), .compare .lt "rank" (.number 0)]]

/-- A height that is no number is the same in both stores, a rank is one zero and the other, and
names are missing. A color does not matter. -/
theorem holds_eq_of_alike_attributeNames_quietGreens :
    let s := Attributes.ofMap [(geometryAttribute, .string "Polygon"), ("class", .string "wood"),
      ("height", .number (0 / 0)), ("rank", .number 0), ("color", .string "green")]
    let t := Attributes.ofPairs [("rank", .number (-0)), ("rank", .number (-7)),
      ("height", .number (0 / 0)), ("class", .string "wood"),
      (geometryAttribute, .string "Polygon")]
    (∀ name ∈ quietGreens.attributeNames, Alike (s name) (t name)) ∧
      quietGreens.holds s = quietGreens.holds t := by
  intro s t
  have hnames : quietGreens.attributeNames = ["$type", "class", "height", "name", "rank"] := by
    decide +kernel
  have halike : ∀ name ∈ quietGreens.attributeNames, Alike (s name) (t name) := by
    intro name hname
    rw [hnames] at hname
    simp only [List.mem_cons, List.not_mem_nil, or_false] at hname
    rcases hname with rfl | rfl | rfl | rfl | rfl
    · exact .inl rfl
    · exact .inl rfl
    · exact .inl rfl
    · exact .inl rfl
    · exact .inr (by decide +kernel)
  exact ⟨halike, quietGreens.holds_eq_of_alike_attributeNames halike⟩

end Filter

end MapStyling
