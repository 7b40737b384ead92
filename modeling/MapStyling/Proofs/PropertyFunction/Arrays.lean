import MapStyling.Proofs.PropertyFunction.Declaration

/-!
# Arrays between stops

An array that is interpolated is interpolated item by item: the item at a position is bit for bit
what the function has whose stops hold only the items at that position
(`PropertyFunction.evaluate_arrayStops`). Both are images of one interpolation between tuples of
numbers (`Stops.mixAll`), for the order of stops and the place of an input among them do not depend on
outputs.
-/

namespace MapStyling

variable {m : Nat}

/-- Mixes two tuples of numbers item by item. -/
def Stops.mixAll (t : Float) (lower upper : Fin m → Float) : Fin m → Float :=
  fun k => mix t (lower k) (upper k)

namespace Value

/-- The array of a tuple of numbers. -/
def ofNumbers (xs : Fin m → Float) : Value :=
  .array (List.ofFn fun k => .number (xs k))

theorem ofNumbers_eq (xs : Fin m → Float) : ofNumbers xs = .array ((List.ofFn xs).map .number) := by
  rw [ofNumbers, List.map_ofFn]
  rfl

theorem numbers?_map (xs : List Float) : numbers? (xs.map .number) = some xs := by
  induction xs with
  | nil => rfl
  | cons x xs ih => rw [List.map_cons, numbers?, ih, Option.map_some]

/-- Arrays of one length blend item by item. -/
theorem blend_ofNumbers (t : Float) (xs ys : Fin m → Float) :
    blend t (ofNumbers xs) (ofNumbers ys) = ofNumbers (Stops.mixAll t xs ys) := by
  have hlength : (List.ofFn xs).length = (List.ofFn ys).length := by simp
  have hitems : List.zipWith (fun a b => Value.number (Stops.mix t a b)) (List.ofFn xs)
      (List.ofFn ys) = List.ofFn fun k => .number (Stops.mixAll t xs ys k) := by
    apply List.ext_getElem
    · simp
    · intro k hk hk'
      simp [Stops.mixAll]
  rw [ofNumbers_eq xs, ofNumbers_eq ys]
  simp only [blend, numbers?_map]
  rw [if_pos hlength, hitems, ofNumbers]

end Value

/-! ## Where a function interpolates -/

/-- Whether a mode interpolates between stops. -/
def AttributeMode.interpolates : AttributeMode → Bool
  | .exponential _ _ => true
  | _ => false

namespace PropertyFunction

variable {members : Keyed Json} {kind : StopKind} {fallback : Option Value} {zoom x : Float}
  {attributes : Attributes}

/-- The number at which a function interpolates, if it does: the zoom, or what the attribute counts
as. -/
def input? (function : PropertyFunction) (zoom : Float) (attributes : Attributes) : Option Float :=
  match function with
  | .constant _ => none
  | .zoom kind _ _ => if kind = .interpolated then some zoom else none
  | .attribute name mode _ =>
    if mode.interpolates then (attributes name).bind Value.toNumber? else none

theorem mode_of_interpolates {type : Option String} {base : Float} {stops : List Json}
    (h : (mode type kind base stops).interpolates = true) :
    mode type kind base stops = .exponential base (NumericStops.ofJson stops) := by
  unfold mode at h ⊢
  split <;> simp_all [AttributeMode.interpolates]

/-- Whether it does is declared apart from its base and stops. -/
theorem interpolates_mode (type : Option String) (kind : StopKind) (base base' : Float)
    (stops stops' : List Json) :
    (mode type kind base stops).interpolates = (mode type kind base' stops').interpolates := by
  unfold mode
  split <;> rfl

/-- What an object interpolates is what its stops give at that number. -/
theorem evaluate_of_input?
    (h : (compile (.object members) kind fallback).input? zoom attributes = some x) :
    (compile (.object members) kind fallback).evaluate zoom attributes =
      (ofStops .interpolated (declaredBase members) (declaredStops members) x).getD
        (declaredDefault members fallback) := by
  cases hproperty : (members.get? "property").bind Json.string? with
  | none =>
    rw [compile_of_zoom hproperty] at h
    rw [evaluate_of_zoom hproperty]
    split at h
    next => cases h
    next =>
      obtain ⟨rfl, hzoom⟩ := Option.ite_none_right_eq_some.mp h
      cases hzoom
      rfl
  | some name =>
    rw [compile_of_attribute hproperty] at h ⊢
    obtain ⟨hmode, hx⟩ := Option.ite_none_right_eq_some.mp h
    obtain ⟨input, hinput, hnumber⟩ := Option.bind_eq_some_iff.mp hx
    rw [mode_of_interpolates hmode]
    simp only [evaluate, hinput, Option.bind_some, ofAttribute, hnumber]
    rfl

/-- Objects that differ in their stops, if they have any, are interpolated at the same number. -/
theorem input?_congr {members members' : Keyed Json}
    (hproperty : members.get? "property" = members'.get? "property")
    (htype : members.get? "type" = members'.get? "type")
    (hstops : declaredStops members = [] ↔ declaredStops members' = []) :
    (compile (.object members) kind fallback).input? zoom attributes =
      (compile (.object members') kind fallback).input? zoom attributes := by
  cases hname : (members.get? "property").bind Json.string? with
  | none =>
    rw [compile_of_zoom hname, compile_of_zoom (hproperty ▸ hname)]
    simp only [hstops]
    split <;> rfl
  | some name =>
    rw [compile_of_attribute hname, compile_of_attribute (hproperty ▸ hname), htype]
    simp only [input?]
    rw [interpolates_mode]

/-! ## Other stops -/

/-- An object with other stops. -/
def withStops (members : Keyed Json) (stops : List Json) : Keyed Json :=
  members.insert "stops" (.array stops)

theorem get?_withStops {key : String} (hkey : "stops" ≠ key) (stops : List Json) :
    (withStops members stops).get? key = members.get? key := by
  rw [withStops, Keyed.get?_insert, if_neg hkey]

theorem get?_stops_withStops (members : Keyed Json) (stops : List Json) :
    (withStops members stops).get? "stops" = some (.array stops) := by
  rw [withStops, Keyed.get?_insert, if_pos rfl]

theorem declaredBase_withStops (stops : List Json) :
    declaredBase (withStops members stops) = declaredBase members := by
  rw [declaredBase, declaredBase, get?_withStops (by decide)]

/-! ## Stops from numbers to tuples -/

/-- Declared stops from numbers to tuples of numbers, of which each is written in some way. -/
def stopsOf (output : (Fin m → Json.Number) → Json)
    (declared : List (Json.Number × (Fin m → Json.Number))) : List Json :=
  declared.map fun stop => .array [.number stop.1, output stop.2]

/-- An array of numbers. -/
def arrayOf (ys : Fin m → Json.Number) : Json :=
  .array (List.ofFn fun k => .number (ys k))

/-- The item of an array at a position. -/
def itemOf (k : Fin m) (ys : Fin m → Json.Number) : Json :=
  .number (ys k)

theorem ofJson_arrayOf (ys : Fin m → Json.Number) :
    Value.ofJson (arrayOf ys) = .ofNumbers fun k => (ys k).toFloat := by
  rw [arrayOf, Value.ofJson, Value.ofItems_eq_map, List.map_ofFn]
  rfl

/-- The stops themselves, in order. -/
def tupleStops (declared : List (Json.Number × (Fin m → Json.Number))) :
    List (Float × (Fin m → Float)) :=
  Stops.ordered totalRank
    (declared.map (Prod.map Json.Number.toFloat fun ys k => (ys k).toFloat))

section Tuples

variable {declared : List (Json.Number × (Fin m → Json.Number))}
  {output : (Fin m → Json.Number) → Json} {read : (Fin m → Float) → Value}

theorem tupleStops_ne_nil (hne : declared ≠ []) : tupleStops declared ≠ [] := by
  intro hnil
  have hlength := (Stops.ordered_perm totalRank (declared.map
    (Prod.map Json.Number.toFloat fun (ys : Fin m → Json.Number) k => (ys k).toFloat))).length_eq
  rw [← tupleStops, hnil, List.length_map] at hlength
  exact hne (List.length_eq_zero_iff.mp hlength.symm)

/-- Stops with outputs that are read from tuples are ordered as the tuples are. -/
theorem declaredStops_tuples (hread : ∀ ys, .ofJson (output ys) = read fun k => (ys k).toFloat) :
    declaredStops (withStops members (stopsOf output declared)) =
      (tupleStops declared).map (Prod.map id read) := by
  rw [stopsOf, declaredStops_outputs (get?_stops_withStops members _), tupleStops, ← Stops.ordered_map,
    ← Stops.ordered_map, List.map_map, List.map_map]
  simp only [hread]
  rfl

/-- There is something between any stops. -/
theorem exists_interpolate?_tupleStops (hne : declared ≠ []) (base x : Float) :
    ∃ ys, Stops.interpolate? Stops.mixAll base x (tupleStops declared) = some ys := by
  have hordered : NumericStops.Ordered ((tupleStops declared).map (Prod.map id Value.ofNumbers)) := by
    have hstops : declaredStops (withStops [] (stopsOf arrayOf declared)) = _ :=
      declaredStops_tuples ofJson_arrayOf
    rw [← hstops]
    exact ordered_declaredStops _
  have hne' : (tupleStops declared).map (Prod.map id Value.ofNumbers) ≠ [] :=
    mt List.map_eq_nil_iff.mp (tupleStops_ne_nil hne)
  obtain ⟨output, houtput⟩ := exists_ofStops .interpolated base hordered hne' x
  rw [ofStops, Stops.interpolate?_map _ Value.blend_ofNumbers] at houtput
  obtain ⟨ys, hys, -⟩ := Option.map_eq_some_iff.mp houtput
  exact ⟨ys, hys⟩

/-- What is interpolated between such stops is read from what is interpolated between the tuples. -/
theorem evaluate_tuples (hread : ∀ ys, .ofJson (output ys) = read fun k => (ys k).toFloat)
    (hblend : ∀ t xs ys, Value.blend t (read xs) (read ys) = read (Stops.mixAll t xs ys))
    (hinput : (compile (.object (withStops members (stopsOf output declared))) kind
      fallback).input? zoom attributes = some x) {ys : Fin m → Float}
    (hys : Stops.interpolate? Stops.mixAll (declaredBase members) x (tupleStops declared) = some ys) :
    (compile (.object (withStops members (stopsOf output declared))) kind fallback).evaluate zoom
      attributes = read ys := by
  rw [evaluate_of_input? hinput, declaredStops_tuples hread, declaredBase_withStops, ofStops,
    Stops.interpolate?_map read hblend, hys, Option.map_some, Option.getD_some]

end Tuples

/-! ## Item by item -/

/-- Arrays of one length are interpolated to an array of this length, item by item: at the number at
which the function with the arrays interpolates, each item is, to the last bit, the number that the
function has whose stops hold these items alone. -/
theorem evaluate_arrayStops {declared : List (Json.Number × (Fin m → Json.Number))}
    (hne : declared ≠ []) (members : Keyed Json) (kind : StopKind) (fallback : Option Value)
    (zoom : Float) (attributes : Attributes) :
    let whole := compile (.object (withStops members (stopsOf arrayOf declared))) kind fallback
    let item := fun k =>
      compile (.object (withStops members (stopsOf (itemOf k) declared))) kind fallback
    ∀ x, whole.input? zoom attributes = some x →
      ∃ ys : Fin m → Float,
        whole.evaluate zoom attributes = .array (List.ofFn fun k => .number (ys k)) ∧
        ∀ k, (item k).input? zoom attributes = some x ∧
          (item k).evaluate zoom attributes = .number (ys k) := by
  intro whole item x hwhole
  obtain ⟨ys, hys⟩ := exists_interpolate?_tupleStops hne (declaredBase members) x
  refine ⟨ys, evaluate_tuples ofJson_arrayOf Value.blend_ofNumbers hwhole hys, fun k => ?_⟩
  let read : (Fin m → Float) → Value := fun zs => .number (zs k)
  have hread : ∀ zs : Fin m → Json.Number,
      Value.ofJson (itemOf k zs) = read fun k => (zs k).toFloat := fun _ => rfl
  have hitem : (item k).input? zoom attributes = some x := by
    rw [← hwhole]
    apply input?_congr
    · rw [get?_withStops (by decide), get?_withStops (by decide)]
    · rw [get?_withStops (by decide), get?_withStops (by decide)]
    · rw [declaredStops_tuples hread, declaredStops_tuples ofJson_arrayOf, List.map_eq_nil_iff,
        List.map_eq_nil_iff]
  exact ⟨hitem, evaluate_tuples hread (fun _ _ _ => rfl) hitem hys⟩

/-- Offsets of which two have one input, halfway between the first and the second. -/
theorem evaluate_arrayStops_offsets :
    let declared : List (Json.Number × (Fin 2 → Json.Number)) :=
      [(.integer 10, ![.integer 4, .integer 0]), (.integer 0, ![.integer 0, .integer 2]),
        (.integer 10, ![.integer 8, .integer 1])]
    let whole := compile (.object (withStops [] (stopsOf arrayOf declared))) .interpolated none
    let item := fun k =>
      compile (.object (withStops [] (stopsOf (itemOf k) declared))) .interpolated none
    declared ≠ [] ∧ whole.input? 5 (fun _ => none) = some 5 ∧
      ∃ ys : Fin 2 → Float,
        whole.evaluate 5 (fun _ => none) = .array (List.ofFn fun k => .number (ys k)) ∧
        ∀ k, (item k).input? 5 (fun _ => none) = some 5 ∧
          (item k).evaluate 5 (fun _ => none) = .number (ys k) := by
  intro declared whole item
  have hne : declared ≠ [] := List.cons_ne_nil _ _
  have hinput : whole.input? 5 (fun _ => none) = some 5 := by decide +kernel
  exact ⟨hne, hinput, evaluate_arrayStops hne [] .interpolated none 5 (fun _ => none) 5 hinput⟩

end PropertyFunction

end MapStyling
