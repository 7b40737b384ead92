import MapStyling.Layer.Compiled
import MapStyling.Proofs.Double.Integer
import MapStyling.Proofs.Stops

/-!
# Evaluating without a gap

To evaluate stops, some of them are looked up by position: the first, the last, and the two around an
input. `PropertyFunction.evaluate` has a value for every function, also where such a stop is missing.
`PropertyFunction.evaluate?` has none there, and none either where the stops that are not above an
input do not come before all others, for then the place of the input among them is not determined.

No compiled function has such a gap (`PropertyFunction.evaluate?_eq_some`). A function of the zoom has
at least one stop, and the stops of every function are in the order of their inputs, none of which is
NaN (`PropertyFunction.Complete`).
-/

namespace MapStyling

/-! ## Stops -/

/-- Whether the stops that are not above an input come before all others. -/
def Stops.isParted {α β : Type} [Scalar α] (x : α) (stops : List (α × β)) : Bool :=
  (stops.dropWhile fun stop => Scalar.le stop.1 x).all fun stop => !Scalar.le stop.1 x

/-- Stops whose inputs are numbers and in order. -/
structure NumericStops.Ordered (stops : NumericStops) : Prop where
  numbers : ∀ stop ∈ stops, stop.1.isNaN = false
  ascending : stops.Pairwise fun s t => totalRank s.1 ≤ totalRank t.1

theorem Scalar.le_eq_true_iff {x y : Float} : Scalar.le x y = true ↔ x ≤ y :=
  decide_eq_true_iff

theorem Scalar.isNaN_eq (x : Float) : Scalar.isNaN x = x.isNaN := by
  rw [Float.isNaN_eq_decide_eq_nan]
  by_cases h : x = Float.nan
  · rw [decide_eq_true h, h]
    rfl
  · have hself : (x == x) = true := Float.beq_self_iff.mpr h
    rw [decide_eq_false h]
    exact congrArg (!·) hself

namespace NumericStops

theorem Ordered.tail {stop : Float × Value} {stops : NumericStops}
    (h : Ordered (stop :: stops)) : Ordered stops where
  numbers := fun s hs => h.numbers s (List.mem_cons_of_mem _ hs)
  ascending := h.ascending.tail

/-- Declared stops are ordered when they are read. -/
theorem ordered_ofJson (declared : List Json) : (ofJson declared).Ordered where
  numbers := by
    intro stop hstop
    have hdeclared := (Stops.ordered_perm totalRank _).mem_iff.mp hstop
    obtain ⟨json, -, hread⟩ := List.mem_filterMap.mp hdeclared
    unfold stop? at hread
    split at hread
    next input output =>
      obtain ⟨x, hinput, rfl⟩ := Option.map_eq_some_iff.mp hread
      exact Json.isNaN_of_float? hinput
    next => cases hread
  ascending := Stops.pairwise_ordered totalRank _

/-- Outputs do not matter to the order of stops. -/
theorem Ordered.mapStops {stops : NumericStops} (h : stops.Ordered) (f : Value → Value) :
    Ordered (PropertyFunction.mapStops f stops) where
  numbers := by
    intro stop hstop
    obtain ⟨original, hmem, rfl⟩ := List.mem_map.mp hstop
    exact h.numbers original hmem
  ascending := List.pairwise_map.mpr h.ascending

/-- Every input parts ordered stops. Beyond a stop that is above it there are none that are not. -/
theorem Ordered.isParted {stops : NumericStops} (h : stops.Ordered) (x : Float) :
    Stops.isParted x stops = true := by
  induction stops with
  | nil => rfl
  | cons stop stops ih =>
    unfold Stops.isParted
    rw [List.dropWhile_cons]
    by_cases hle : Scalar.le stop.1 x = true
    · rw [if_pos hle]
      exact ih h.tail
    · rw [if_neg hle]
      refine List.all_eq_true.mpr fun s hs => ?_
      rw [Bool.not_eq_true', Bool.eq_false_iff]
      intro hsx
      refine hle (Scalar.le_eq_true_iff.mpr ?_)
      rcases List.mem_cons.mp hs with rfl | hmem
      · exact Scalar.le_eq_true_iff.mp hsx
      · have hrank := (List.pairwise_cons.mp h.ascending).1 s hmem
        exact Double.le_of_totalRank_le (h.numbers stop List.mem_cons_self) hrank
          (Scalar.le_eq_true_iff.mp hsx)

/-- What is neither NaN nor below the first stop is above it. -/
theorem Ordered.first_le {stops : NumericStops} (h : stops.Ordered) {first : Float × Value}
    (hfirst : stops.head? = some first) {x : Float}
    (hbelow : ¬ (Scalar.isNaN x || Scalar.le x first.1) = true) : Scalar.le first.1 x = true := by
  rw [Bool.or_eq_true, not_or, Bool.not_eq_true, Scalar.isNaN_eq, Scalar.le_eq_true_iff] at hbelow
  have hnumber := h.numbers first (List.mem_of_mem_head? hfirst)
  exact Scalar.le_eq_true_iff.mpr ((Double.le_total hnumber hbelow.1).resolve_right hbelow.2)

end NumericStops

/-! ## Functions -/

namespace PropertyFunction

/-- The output of numeric stops at an input that parts them; none if there is no stop, or none where
two are needed. -/
def ofStops? (kind : StopKind) (base : Float) (stops : NumericStops) (x : Float) : Option Value :=
  if Stops.isParted x stops then ofStops kind base stops x else none

/-- The output of numeric stops at the number that an attribute counts as. The default takes its place
where the attribute counts as none, and where there are no stops to begin with. -/
def ofNumber? (kind : StopKind) (base : Float) (stops : NumericStops) (default input : Value) :
    Option Value :=
  match input.toNumber? with
  | none => some default
  | some x => if stops.isEmpty then some default else ofStops? kind base stops x

/-- The output of a function of an attribute. -/
def ofMode? (mode : AttributeMode) (default input : Value) : Option Value :=
  match mode with
  | .identity => some input
  | .categorical stops =>
    some (((stops.find? fun stop => stop.1.looseEq input).map (·.2)).getD default)
  | .exponential base stops => ofNumber? .interpolated base stops default input
  | .interval stops => ofNumber? .piecewise 1 stops default input

/-- The value at a zoom level and for a feature's attributes; none if a stop is missing for it. -/
def evaluate? (function : PropertyFunction) (zoom : Float) (attributes : Attributes) :
    Option Value :=
  match function with
  | .constant value => some value
  | .zoom kind base stops => ofStops? kind base stops zoom
  | .attribute name mode default =>
    match attributes name with
    | none => some default
    | some input => ofMode? mode default input

/-- A function has all the stops that are looked up. A function of the zoom has one at least; that of
an attribute looks for none if there is none. -/
def Complete : PropertyFunction → Prop
  | .constant _ => True
  | .zoom _ _ stops => stops ≠ [] ∧ stops.Ordered
  | .attribute _ (.exponential _ stops) _ | .attribute _ (.interval stops) _ => stops.Ordered
  | .attribute .. => True

/-- Ordered stops have an output at every input. -/
theorem exists_ofStops (kind : StopKind) (base : Float) {stops : NumericStops}
    (hordered : stops.Ordered) (hne : stops ≠ []) (x : Float) :
    ∃ output, ofStops kind base stops x = some output := by
  cases kind with
  | piecewise =>
    cases stops with
    | nil => exact absurd rfl hne
    | cons stop stops => exact ⟨_, rfl⟩
  | interpolated =>
    obtain ⟨first, hfirst⟩ : ∃ first, stops.head? = some first := ⟨_, List.head?_eq_some_head hne⟩
    obtain ⟨last, hlast⟩ : ∃ last, stops.getLast? = some last :=
      ⟨_, List.getLast?_eq_some_getLast hne⟩
    rw [ofStops, Stops.interpolate?_eq hfirst hlast]
    split
    · exact ⟨_, rfl⟩
    next hbelow =>
      split
      · exact ⟨_, rfl⟩
      next habove =>
        have hlow := hordered.first_le hfirst hbelow
        obtain ⟨n, hn, -, haround⟩ := Stops.exists_around? hfirst hlast hlow habove
        exact ⟨_, congrArg (Option.map _) haround⟩

theorem ofStops?_eq_ofStops (kind : StopKind) (base : Float) {stops : NumericStops}
    (hordered : stops.Ordered) (x : Float) :
    ofStops? kind base stops x = ofStops kind base stops x :=
  if_pos (hordered.isParted x)

theorem ofNumber?_eq_some (kind : StopKind) (base : Float) {stops : NumericStops}
    (hordered : stops.Ordered) (default input : Value) :
    ofNumber? kind base stops default input =
      some ((input.toNumber?.bind (ofStops kind base stops)).getD default) := by
  unfold ofNumber?
  cases input.toNumber? with
  | none => rfl
  | some x =>
    show (if stops.isEmpty then some default else ofStops? kind base stops x) =
      some ((ofStops kind base stops x).getD default)
    by_cases hempty : stops = []
    · subst hempty
      cases kind <;> rfl
    · obtain ⟨output, houtput⟩ := exists_ofStops kind base hordered hempty x
      rw [if_neg (mt List.isEmpty_iff.mp hempty), ofStops?_eq_ofStops kind base hordered, houtput]
      rfl

/-- A complete function has a value at every zoom level and for all attributes. -/
theorem evaluate?_eq_some {function : PropertyFunction} (h : function.Complete) (zoom : Float)
    (attributes : Attributes) :
    function.evaluate? zoom attributes = some (function.evaluate zoom attributes) := by
  cases function with
  | constant value => rfl
  | zoom kind base stops =>
    obtain ⟨hne, hordered⟩ := h
    obtain ⟨output, houtput⟩ := exists_ofStops kind base hordered hne zoom
    rw [evaluate?, evaluate, ofStops?_eq_ofStops kind base hordered, houtput]
    rfl
  | «attribute» name mode default =>
    rw [evaluate?, evaluate]
    cases attributes name with
    | none => rfl
    | some input =>
      rw [Option.bind_some]
      cases mode with
      | identity => rfl
      | categorical stops => rfl
      | exponential base stops => exact ofNumber?_eq_some .interpolated base h default input
      | interval stops => exact ofNumber?_eq_some .piecewise 1 h default input

/-! ## Compiled functions are complete -/

theorem complete_mode (name : String) (default : Value) (type : Option String) (kind : StopKind)
    (base : Float) (declared : List Json) :
    Complete (.attribute name (mode type kind base declared) default) := by
  unfold mode
  split
  · trivial
  · trivial
  · exact NumericStops.ordered_ofJson declared
  · exact NumericStops.ordered_ofJson declared
  · exact NumericStops.ordered_ofJson declared

/-- A function that is compiled is complete. -/
theorem complete_compile (declaration : Json) (kind : StopKind) (fallback : Option Value) :
    (compile declaration kind fallback).Complete := by
  unfold compile
  split
  next members =>
    unfold compileObject
    dsimp only
    split
    next name _ => exact complete_mode ..
    next =>
      split
      next => trivial
      next stops hne => exact ⟨hne, NumericStops.ordered_ofJson _⟩
  next => trivial

/-- Outputs do not matter to completeness. -/
theorem Complete.mapOutputs {function : PropertyFunction} (h : function.Complete)
    (f : Value → Value) : (function.mapOutputs f).Complete := by
  cases function with
  | constant value => trivial
  | zoom kind base stops =>
    exact ⟨fun hnil => h.1 (List.map_eq_nil_iff.mp hnil), h.2.mapStops f⟩
  | «attribute» name mode default =>
    cases mode with
    | exponential base stops => exact NumericStops.Ordered.mapStops h f
    | interval stops => exact NumericStops.Ordered.mapStops h f
    | categorical stops => trivial
    | identity => trivial

end PropertyFunction

/-! ## Layers -/

theorem Paint.complete_ofDeclarations {declarations : Keyed Json}
    {entry : Property × PropertyFunction} (h : entry ∈ ofDeclarations declarations) :
    entry.2.Complete := by
  obtain ⟨property, -, hentry⟩ := List.mem_filterMap.mp h
  obtain ⟨declaration, -, rfl⟩ := Option.map_eq_some_iff.mp hentry
  show (compileProperty property declaration).Complete
  unfold compileProperty
  cases property.kind? with
  | none => trivial
  | some kind => exact PropertyFunction.complete_compile ..

/-- The property functions of a compiled layer are complete. -/
theorem Layer.complete_compile {layer : Layer} {index : Nat} {fonts : Option (List String)}
    {entry : Property × PropertyFunction} (h : entry ∈ (layer.compile index fonts).paint) :
    entry.2.Complete := by
  replace h : entry ∈ (Paint.ofDeclarations (layer.paint.getD [])).chooseFonts fonts := h
  unfold Paint.chooseFonts at h
  split at h
  · obtain ⟨original, hmem, rfl⟩ := List.mem_map.mp h
    have horiginal := Paint.complete_ofDeclarations hmem
    dsimp only
    split
    · exact horiginal.mapOutputs _
    · exact horiginal
  · exact Paint.complete_ofDeclarations h

end MapStyling
