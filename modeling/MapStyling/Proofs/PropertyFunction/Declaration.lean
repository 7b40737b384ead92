import MapStyling.Proofs.Evaluation

/-!
# Functions of one declaration

An object with stops is compiled to a function of the zoom, or with a `property` to one of an
attribute. Either way the value is what the stops give at the zoom, or at the number that the
attribute counts as, and the default where they give nothing (`PropertyFunction.evaluate_of_zoom`,
`PropertyFunction.evaluate_of_attribute`). So it makes no difference by which of the two a function is
driven (`PropertyFunction.evaluate_insert_property`).

Nor does it matter how a function moves between stops of which no two neighbours mix
(`PropertyFunction.evaluate_interpolated_eq_piecewise`). The stop below an input is found in two ways
there, by a scan and by its position, and both find the last stop that is not above it.
-/

namespace MapStyling

/-! ## Values that do not mix -/

/-- Whether two values mix: both are numbers, or both are arrays of one length that hold only
numbers. -/
def Value.mixes : Value → Value → Bool
  | .number _, .number _ => true
  | .array vs, .array ws =>
    vs.length = ws.length && (vs ++ ws).all fun item => item.number?.isSome
  | _, _ => false

namespace Value

theorem eq_map_of_numbers? {vs : List Value} {xs : List Float} (h : numbers? vs = some xs) :
    vs = xs.map .number := by
  induction vs generalizing xs with
  | nil =>
    cases h
    rfl
  | cons v vs ih =>
    cases v with
    | number x =>
      obtain ⟨ys, hys, rfl⟩ := Option.map_eq_some_iff.mp h
      rw [ih hys, List.map_cons]
    | null | bool _ | string _ | array _ => cases h

/-- Of values that do not mix the lower one stays. -/
theorem blend_of_not_mixes {lower upper : Value} (h : lower.mixes upper = false) (t : Float) :
    blend t lower upper = lower := by
  unfold blend
  split
  · cases h
  next vs ws =>
    split
    next xs ys hxs hys =>
      rw [if_neg]
      intro hlength
      rw [eq_map_of_numbers? hxs, eq_map_of_numbers? hys] at h
      simp [mixes, hlength, number?] at h
    next => rfl
  · rfl

end Value

/-! ## Stops that do not mix -/

/-- What is not above a number is below all that is above the number. -/
theorem Double.not_le_of_le_of_lt {x y z : Float} (hxy : x ≤ y) (hyz : y < z) : ¬ z ≤ x := by
  intro hzx
  obtain ⟨-, -, hplace⟩ := (Double.le_iff x y).mp hxy
  obtain ⟨-, -, hplace'⟩ := (Double.lt_iff y z).mp hyz
  obtain ⟨-, -, hplace''⟩ := (Double.le_iff z x).mp hzx
  omega

namespace NumericStops

variable {stops : NumericStops}

/-- Ordered stops with different inputs strictly ascend. -/
theorem Ordered.pairwise_lt (h : stops.Ordered)
    (hdistinct : stops.Pairwise fun s t => (s.1 == t.1) = false) :
    stops.Pairwise fun s t => s.1 < t.1 := by
  refine (h.ascending.and hdistinct).imp_of_mem fun {s t} hs ht hst => ?_
  have hnumber := h.numbers s hs
  have hnumber' := h.numbers t ht
  have hplace : Double.place s.1 ≤ Double.place t.1 := Double.place_le_of_totalRank_le hst.1
  refine (Double.lt_iff s.1 t.1).mpr ⟨hnumber, hnumber', lt_of_le_of_ne hplace fun heq => ?_⟩
  rw [(Double.beq_iff s.1 t.1).mpr ⟨hnumber, hnumber', heq⟩] at hst
  exact Bool.noConfusion hst.2

/-- No stop is above the last. -/
theorem Ordered.le_of_last_le (h : stops.Ordered) {last : Float × Value}
    (hlast : stops.getLast? = some last) {x : Float} (hx : last.1 ≤ x) :
    ∀ stop ∈ stops, stop.1 ≤ x := by
  obtain ⟨before, rfl⟩ := List.getLast?_eq_some_iff.mp hlast
  intro stop hstop
  rcases List.mem_append.mp hstop with hmem | hmem
  · have hrank := (List.pairwise_append.mp h.ascending).2.2 stop hmem last List.mem_cons_self
    exact Double.le_of_totalRank_le (h.numbers stop hstop) hrank hx
  · rw [List.mem_singleton.mp hmem]
    exact hx

/-- Below the second stop no more than the first is reached. -/
theorem getLast?_takeWhile_of_below {first : Float × Value}
    (hascending : List.Pairwise (fun s t => s.1 < t.1) (first :: stops)) {x : Float}
    (hbelow : (Scalar.isNaN x || Scalar.le x first.1) = true) :
    (((first :: stops).takeWhile fun stop => Scalar.le stop.1 x).getLast?.or (some first)) =
      some first := by
  have hnone : (stops.takeWhile fun stop => Scalar.le stop.1 x) = [] := by
    cases stops with
    | nil => rfl
    | cons second stops =>
      have hlt : first.1 < second.1 := (List.pairwise_cons.mp hascending).1 second List.mem_cons_self
      refine List.takeWhile_cons_of_neg fun hle => ?_
      rw [Scalar.le_eq_true_iff] at hle
      rw [Bool.or_eq_true, Scalar.isNaN_eq, Scalar.le_eq_true_iff] at hbelow
      rcases hbelow with hnan | hx
      · exact Bool.noConfusion (hnan.symm.trans ((Double.le_iff _ _).mp hle).2.1)
      · exact Double.not_le_of_le_of_lt hx hlt hle
  rw [List.takeWhile_cons, hnone]
  split <;> rfl

/-- Between stops of which no two neighbours mix, moving is stepping. -/
theorem Ordered.interpolate?_eq_step? (h : stops.Ordered)
    (hdistinct : stops.Pairwise fun s t => (s.1 == t.1) = false)
    (houtputs : stops.IsChain fun s t => s.2.mixes t.2 = false) (base x : Float) :
    Stops.interpolate? Value.blend base x stops = Stops.step? x stops := by
  cases stops with
  | nil => rfl
  | cons first stops =>
    obtain ⟨last, hlast⟩ : ∃ last, (first :: stops).getLast? = some last :=
      ⟨_, List.getLast?_eq_some_getLast (List.cons_ne_nil _ _)⟩
    rw [Stops.interpolate?_eq List.head?_cons hlast, Stops.step?_eq, List.head?_cons]
    split
    next hbelow => rw [getLast?_takeWhile_of_below (h.pairwise_lt hdistinct) hbelow, Option.map_some]
    next hbelow =>
      split
      next habove =>
        have hall := h.le_of_last_le hlast (Scalar.le_eq_true_iff.mp habove)
        rw [List.takeWhile_eq_self_iff.mpr fun stop hstop => Scalar.le_eq_true_iff.mpr (hall stop hstop),
          hlast]
        rfl
      next habove =>
        have hlow := h.first_le List.head?_cons hbelow
        obtain ⟨n, hn, hcount, haround⟩ := Stops.exists_around? List.head?_cons hlast hlow habove
        have happart : (first :: stops)[n].2.mixes (first :: stops)[n + 1].2 = false :=
          List.isChain_iff_getElem.mp houtputs n hn
        rw [haround, Stops.getLast?_takeWhile hcount, List.getElem?_eq_getElem (Nat.lt_of_succ_lt hn)]
        exact congrArg some (Value.blend_of_not_mixes happart _)

end NumericStops

namespace PropertyFunction

variable {members : Keyed Json} {kind : StopKind} {fallback : Option Value}

/-! ## Objects with stops -/

/-- The base that an object declares. -/
def declaredBase (members : Keyed Json) : Float :=
  ((members.get? "base").bind Json.float?).getD 1

/-- The default that an object declares, or else the fallback. -/
def declaredDefault (members : Keyed Json) (fallback : Option Value) : Value :=
  (((members.get? "default").map Value.ofJson).or fallback).getD .null

/-- The stops that an object declares, in order. -/
def declaredStops (members : Keyed Json) : NumericStops :=
  NumericStops.ofJson (((members.get? "stops").bind Json.array?).getD [])

theorem declaredStops_eq {declared : List Json}
    (hstops : members.get? "stops" = some (.array declared)) :
    declaredStops members = NumericStops.ofJson declared := by
  rw [declaredStops, hstops]
  rfl

theorem ordered_declaredStops (members : Keyed Json) : (declaredStops members).Ordered :=
  NumericStops.ordered_ofJson _

theorem ofStops_nil (kind : StopKind) (base x : Float) : ofStops kind base [] x = none := by
  cases kind <;> rfl

/-- Without a `property` an object is a function of the zoom, or without stops its default. -/
theorem compile_of_zoom (hproperty : (members.get? "property").bind Json.string? = none)
    (kind : StopKind) (fallback : Option Value) :
    compile (.object members) kind fallback =
      if declaredStops members = [] then .constant (declaredDefault members fallback)
      else .zoom kind (declaredBase members) (declaredStops members) := by
  simp only [compile, compileObject, hproperty]
  split
  next hnil => exact (if_pos hnil).symm
  next hne => exact (if_neg hne).symm

/-- With a `property` it is a function of that attribute. -/
theorem compile_of_attribute {name : String}
    (hproperty : (members.get? "property").bind Json.string? = some name) (kind : StopKind)
    (fallback : Option Value) :
    compile (.object members) kind fallback =
      .attribute name (mode ((members.get? "type").bind Json.string?) kind (declaredBase members)
        (((members.get? "stops").bind Json.array?).getD [])) (declaredDefault members fallback) := by
  simp only [compile, compileObject, hproperty]
  rfl

/-- A function of the zoom has the value of its stops at the zoom. -/
theorem evaluate_of_zoom (hproperty : (members.get? "property").bind Json.string? = none)
    (zoom : Float) (attributes : Attributes) :
    (compile (.object members) kind fallback).evaluate zoom attributes =
      (ofStops kind (declaredBase members) (declaredStops members) zoom).getD
        (declaredDefault members fallback) := by
  rw [compile_of_zoom hproperty]
  split
  next hnil =>
    rw [hnil, ofStops_nil]
    rfl
  next hne =>
    obtain ⟨output, houtput⟩ :=
      exists_ofStops kind (declaredBase members) (ordered_declaredStops members) hne zoom
    rw [houtput]
    exact congrArg (·.getD Value.null) houtput

/-- Stops from numbers are ordered as such, whatever their outputs. -/
theorem declaredStops_outputs {β : Type} {declared : List (Json.Number × β)} {output : β → Json}
    (hstops : members.get? "stops" =
      some (.array (declared.map fun stop => .array [.number stop.1, output stop.2]))) :
    declaredStops members =
      (Stops.ordered totalRank (declared.map (Prod.map Json.Number.toFloat id))).map
        (Prod.map id fun b => .ofJson (output b)) := by
  rw [declaredStops_eq hstops, ← Stops.ordered_map, NumericStops.ofJson, List.filterMap_map,
    List.map_map]
  exact congrArg (Stops.ordered totalRank) (congrFun List.filterMap_eq_map' _)

/-- Stops from numbers to numbers are ordered as such. -/
theorem declaredStops_numbers {declared : List (Json.Number × Json.Number)}
    (hstops : members.get? "stops" =
      some (.array (declared.map fun stop => .array [.number stop.1, .number stop.2]))) :
    declaredStops members =
      (Stops.ordered totalRank (declared.map (Prod.map Json.Number.toFloat Json.Number.toFloat))).map
        (Prod.map id Value.number) := by
  rw [declaredStops_outputs hstops, ← Stops.ordered_map, ← Stops.ordered_map, List.map_map,
    List.map_map]
  rfl

/-- And so they are moved between by the formula for numbers. -/
theorem evaluate_of_numbers (hproperty : (members.get? "property").bind Json.string? = none)
    {declared : List (Json.Number × Json.Number)}
    (hstops : members.get? "stops" =
      some (.array (declared.map fun stop => .array [.number stop.1, .number stop.2])))
    (zoom : Float) (attributes : Attributes) :
    (compile (.object members) .interpolated fallback).evaluate zoom attributes =
      ((Stops.interpolate? Stops.mix (declaredBase members) zoom (Stops.ordered totalRank
        (declared.map (Prod.map Json.Number.toFloat Json.Number.toFloat)))).map Value.number).getD
        (declaredDefault members fallback) := by
  have hblend : ∀ t a b, Value.blend t (.number a) (.number b) = .number (Stops.mix t a b) :=
    fun _ _ _ => rfl
  rw [evaluate_of_zoom hproperty, declaredStops_numbers hstops, ofStops,
    Stops.interpolate?_map Value.number hblend]

/-- With a `property`, and no type, it has the value of its stops at the number that the attribute
counts as. -/
theorem evaluate_of_attribute {name : String}
    (hproperty : (members.get? "property").bind Json.string? = some name)
    (htype : (members.get? "type").bind Json.string? = none) (zoom : Float)
    (attributes : Attributes) :
    (compile (.object members) kind fallback).evaluate zoom attributes =
      (((attributes name).bind Value.toNumber?).bind
        (ofStops kind (declaredBase members) (declaredStops members))).getD
        (declaredDefault members fallback) := by
  rw [compile_of_attribute hproperty, htype, Option.bind_assoc]
  cases kind <;> rfl

/-- Functions with a type move between their stops as the type says. -/
theorem mode_of_type (type : String) (kind kind' : StopKind) (base : Float) (stops : List Json) :
    mode (some type) kind base stops = mode (some type) kind' base stops := by
  unfold mode
  split <;> simp_all

/-! ## Zoom and attributes -/

/-- What drives a function makes no difference. Without `property` and `type`, an object has at a zoom
the value that it has with a `property` for an attribute that is the same number. -/
theorem evaluate_insert_property (hproperty : members.get? "property" = none)
    (htype : members.get? "type" = none) (kind : StopKind) (fallback : Option Value) {name : String}
    {x : Float} {attributes' : Attributes} (hname : attributes' name = some (.number x))
    (zoom : Float) (attributes : Attributes) :
    (compile (.object members) kind fallback).evaluate x attributes =
      (compile (.object (members.insert "property" (.string name))) kind fallback).evaluate zoom
        attributes' := by
  have hproperty' : ((members.insert "property" (.string name)).get? "property").bind Json.string? =
      some name := by
    rw [Keyed.get?_insert, if_pos rfl]
    rfl
  have hother : ∀ key, "property" ≠ key →
      (members.insert "property" (.string name)).get? key = members.get? key := by
    intro key hkey
    rw [Keyed.get?_insert, if_neg hkey]
  have htype' : ((members.insert "property" (.string name)).get? "type").bind Json.string? =
      none := by
    rw [hother "type" (by decide), htype]
    rfl
  rw [evaluate_of_zoom (by rw [hproperty]; rfl), evaluate_of_attribute hproperty' htype', hname]
  simp only [declaredBase, declaredStops, declaredDefault, hother "base" (by decide),
    hother "stops" (by decide), hother "default" (by decide)]
  rfl

/-- Heights with a default, and an entry that is no stop, at an input that is no number. -/
theorem evaluate_insert_property_heights :
    let stops : List Json :=
      [.array [.number (.integer 10), .number (.integer 3)], .string "ten",
        .array [.number (.integer 0), .number (.integer 1)]]
    let members : Keyed Json := [("default", .number (.integer 7)), ("stops", .array stops)]
    let heights : Attributes := fun name => if name = "height" then some (.number (0 / 0)) else none
    members.get? "property" = none ∧ members.get? "type" = none ∧
      heights "height" = some (.number (0 / 0)) ∧
      (compile (.object members) .interpolated none).evaluate (0 / 0) (fun _ => none) =
        (compile (.object (members.insert "property" (.string "height"))) .interpolated none).evaluate
          12 heights :=
  ⟨rfl, rfl, rfl, evaluate_insert_property rfl rfl .interpolated none rfl 12 fun _ => none⟩

/-! ## Moving and stepping -/

theorem ofStops_interpolated_eq_piecewise {stops : NumericStops} (h : stops.Ordered)
    (hdistinct : stops.Pairwise fun s t => (s.1 == t.1) = false)
    (houtputs : stops.IsChain fun s t => s.2.mixes t.2 = false) (base : Float) :
    ofStops .interpolated base stops = ofStops .piecewise base stops :=
  funext fun x => h.interpolate?_eq_step? hdistinct houtputs base x

/-- Between stops of different inputs, of which no two neighbours have outputs that mix, a function
moves in steps, whichever way its declaration is compiled. The two zeros count as one input. -/
theorem evaluate_interpolated_eq_piecewise {declared : List Json}
    (hstops : members.get? "stops" = some (.array declared))
    (hdistinct : (declared.filterMap NumericStops.stop?).Pairwise fun s t => (s.1 == t.1) = false)
    (houtputs : (NumericStops.ofJson declared).IsChain fun s t => s.2.mixes t.2 = false)
    (fallback : Option Value) (zoom : Float) (attributes : Attributes) :
    (compile (.object members) .interpolated fallback).evaluate zoom attributes =
      (compile (.object members) .piecewise fallback).evaluate zoom attributes := by
  have hdeclared := declaredStops_eq hstops
  have hsymm : ∀ {s t : Float × Value}, (s.1 == t.1) = false → (t.1 == s.1) = false := by
    intro s t hst
    rw [← hst, Bool.eq_iff_iff, Double.beq_iff, Double.beq_iff]
    tauto
  have hdistinct' : (declaredStops members).Pairwise fun s t => (s.1 == t.1) = false := by
    rw [hdeclared]
    exact ((Stops.ordered_perm totalRank _).pairwise_iff hsymm).mpr hdistinct
  have hagree := ofStops_interpolated_eq_piecewise (ordered_declaredStops members) hdistinct'
    (hdeclared ▸ houtputs) (declaredBase members)
  cases hproperty : (members.get? "property").bind Json.string? with
  | none => rw [evaluate_of_zoom hproperty, evaluate_of_zoom hproperty, hagree]
  | some name =>
    cases htype : (members.get? "type").bind Json.string? with
    | none =>
      rw [evaluate_of_attribute hproperty htype, evaluate_of_attribute hproperty htype, hagree]
    | some type =>
      rw [compile_of_attribute hproperty, compile_of_attribute hproperty, htype,
        mode_of_type type .interpolated .piecewise]

/-- Names and pairs of different lengths, written from the last to the first. -/
theorem evaluate_interpolated_eq_piecewise_words :
    let pair (items : List Int) : Json := .array (items.map fun i => .number (.integer i))
    let declared : List Json :=
      [.array [.number (.integer 12), pair [1]], .array [.number (.integer 8), pair [1, 2]],
        .array [.number (.integer 4), .string "far"], .array [.number (.integer 0), .string "near"]]
    let members : Keyed Json := [("base", .number (.integer 2)), ("stops", .array declared)]
    members.get? "stops" = some (.array declared) ∧
      ((declared.filterMap NumericStops.stop?).Pairwise fun s t => (s.1 == t.1) = false) ∧
      ((NumericStops.ofJson declared).IsChain fun s t => s.2.mixes t.2 = false) ∧
      (compile (.object members) .interpolated none).evaluate 9 (fun _ => none) =
        (compile (.object members) .piecewise none).evaluate 9 fun _ => none := by
  intro pair declared members
  have hdistinct : (declared.filterMap NumericStops.stop?).Pairwise fun s t =>
      (s.1 == t.1) = false := by decide +kernel
  have houtputs : (NumericStops.ofJson declared).IsChain fun s t => s.2.mixes t.2 = false := by
    decide +kernel
  exact ⟨rfl, hdistinct, houtputs,
    evaluate_interpolated_eq_piecewise rfl hdistinct houtputs none 9 fun _ => none⟩

end PropertyFunction

end MapStyling
