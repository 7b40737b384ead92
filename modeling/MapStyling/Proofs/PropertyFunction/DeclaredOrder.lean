import MapStyling.Proofs.PropertyFunction.Declaration

/-!
# The order of declared stops

A declaration lists its stops in any order, among entries that may be no stops. What it means is the
list of its stops in ascending order of their inputs, and those of one input in the order in which
they are declared (`NumericStops.InOrder`). A function that moves in steps takes the last of these
that is not above the zoom, and the first where there is none (`PropertyFunction.compile_orders_stops`).

The order is that of a stable sort. To tell where a stop was declared, it is sorted together with its
position (`NumericStops.placed`), which makes no difference to the order since outputs do not matter
to it.
-/

namespace MapStyling

/-- A number comes before another: it is smaller, or it is the negative zero and the other is zero. -/
def Double.Before (x y : Float) : Prop :=
  x < y ∨ x = -0 ∧ y = 0

namespace NumericStops

/-- A stop is declared at a position: an array of two items stands there, an input that is a number
and an output. -/
def DeclaredAt (declared : List Json) (position : Nat) (input : Float) (output : Value) : Prop :=
  ∃ number json, declared[position]? = some (.array [.number number, json]) ∧
    input = number.toFloat ∧ output = .ofJson json

/-- Stops with their positions are those of a declaration, each once, by their inputs and those of one
input by their positions. -/
structure InOrder (declared : List Json) (stops : List (Float × Nat × Value)) : Prop where
  mem_iff : ∀ input position output,
    (input, position, output) ∈ stops ↔ DeclaredAt declared position input output
  ascending : stops.Pairwise fun s t => Double.Before s.1 t.1 ∨ s.1 = t.1 ∧ s.2.1 < t.2.1

/-! ## Stops with their positions -/

theorem stop?_eq_some_iff {json : Json} {input : Float} {output : Value} :
    stop? json = some (input, output) ↔
      ∃ number item, json = .array [.number number, item] ∧ input = number.toFloat ∧
        output = .ofJson item := by
  constructor
  · intro h
    unfold stop? at h
    split at h
    next first item =>
      obtain ⟨x, hx, heq⟩ := Option.map_eq_some_iff.mp h
      cases first with
      | number n =>
        cases hx
        cases heq
        exact ⟨n, item, rfl, rfl, rfl⟩
      | null | bool _ | string _ | array _ | object _ => cases hx
    next => cases h
  · rintro ⟨number, item, rfl, rfl, rfl⟩
    rfl

/-- The stops of a declaration, each with its position. -/
def placed (declared : List Json) : List (Float × Nat × Value) :=
  declared.zipIdx.filterMap fun (json, position) =>
    (stop? json).map fun (input, output) => (input, position, output)

theorem mem_placed {declared : List Json} {input : Float} {position : Nat} {output : Value} :
    (input, position, output) ∈ placed declared ↔ DeclaredAt declared position input output := by
  unfold placed DeclaredAt
  rw [List.mem_filterMap]
  constructor
  · rintro ⟨⟨json, i⟩, hmem, hstop⟩
    obtain ⟨⟨x, v⟩, hread, heq⟩ := Option.map_eq_some_iff.mp hstop
    cases heq
    obtain ⟨number, item, rfl, hinput, houtput⟩ := stop?_eq_some_iff.mp hread
    exact ⟨number, item, List.mem_zipIdx_iff_getElem?.mp hmem, hinput, houtput⟩
  · rintro ⟨number, item, hget, rfl, rfl⟩
    exact ⟨(.array [.number number, item], position), List.mem_zipIdx_iff_getElem?.mpr hget, rfl⟩

/-- Positions ascend. -/
theorem pairwise_placed (declared : List Json) :
    (placed declared).Pairwise fun s t => s.2.1 < t.2.1 := by
  have hpositions : declared.zipIdx.Pairwise fun s t => s.2 < t.2 := by
    rw [← List.pairwise_map (f := Prod.snd) (R := (· < ·)), List.zipIdx_map_snd]
    exact List.pairwise_lt_range'
  refine List.pairwise_filterMap.mpr (hpositions.imp fun {s t} hst => ?_)
  intro a ha b hb
  obtain ⟨_, -, rfl⟩ := Option.map_eq_some_iff.mp ha
  obtain ⟨_, -, rfl⟩ := Option.map_eq_some_iff.mp hb
  exact hst

/-- Without their positions, the placed stops are those that are read. -/
theorem map_placed (declared : List Json) :
    (placed declared).map (Prod.map id Prod.snd) = declared.filterMap stop? := by
  unfold placed
  rw [List.map_filterMap]
  conv => rhs; rw [← List.zipIdx_map_fst 0 declared, List.filterMap_map]
  congr 1
  funext ⟨json, position⟩
  rw [Function.comp_apply]
  cases h : stop? json <;> simp [h]

/-- The stops that are read are the placed ones in order. -/
theorem map_ordered_placed (declared : List Json) :
    (Stops.ordered totalRank (placed declared)).map (Prod.map id Prod.snd) = ofJson declared := by
  rw [← Stops.ordered_map, map_placed]
  rfl

theorem inOrder_ordered_placed (declared : List Json) :
    InOrder declared (Stops.ordered totalRank (placed declared)) where
  mem_iff input position output :=
    (Stops.ordered_perm totalRank _).mem_iff.trans mem_placed
  ascending := by
    have hnumber : ∀ stop ∈ Stops.ordered totalRank (placed declared), stop.1.isNaN = false := by
      intro stop hstop
      refine (ordered_ofJson declared).numbers (stop.1, stop.2.2) ?_
      rw [← map_ordered_placed]
      exact List.mem_map_of_mem hstop
    have hstable := Stops.pairwise_ordered_before totalRank (pairwise_placed declared)
    refine hstable.imp_of_mem fun {s t} hs ht hst => hst.imp (fun hlt => ?_) fun heq => ?_
    · exact (Double.totalRank_lt_iff (hnumber s hs) (hnumber t ht)).mp hlt
    · exact ⟨Double.totalRank_injective heq.1, heq.2⟩

end NumericStops

/-! ## Stepping through ordered stops -/

/-- Where an input parts stops, those in front that are not above it are all that are not. -/
theorem Stops.takeWhile_eq_filter {α β : Type} [Scalar α] {x : α} {stops : List (α × β)}
    (h : isParted x stops = true) :
    (stops.takeWhile fun stop => Scalar.le stop.1 x) =
      stops.filter fun stop => Scalar.le stop.1 x := by
  let reached : α × β → Bool := fun stop => Scalar.le stop.1 x
  have hfront : (stops.takeWhile reached).filter reached = stops.takeWhile reached :=
    List.filter_eq_self.mpr fun stop hstop => List.mem_takeWhile_imp hstop
  have hback : (stops.dropWhile reached).filter reached = [] := by
    refine List.filter_eq_nil_iff.mpr fun stop hstop => ?_
    have hnot : (!reached stop) = true := List.all_eq_true.mp h stop hstop
    exact (Bool.not_eq_true' _).mp hnot ▸ Bool.false_ne_true
  calc stops.takeWhile reached
    _ = (stops.takeWhile reached).filter reached ++ (stops.dropWhile reached).filter reached := by
      rw [hfront, hback, List.append_nil]
    _ = (stops.takeWhile reached ++ stops.dropWhile reached).filter reached :=
      (List.filter_append _ _).symm
    _ = stops.filter reached := by rw [List.takeWhile_append_dropWhile]

namespace PropertyFunction

variable {members members' : Keyed Json} {declared declared' : List Json}

/-- A function that moves in steps takes the last stop in order that is not above the zoom, or else
the first. -/
theorem evaluate_piecewise (hstops : members.get? "stops" = some (.array declared))
    (hproperty : (members.get? "property").bind Json.string? = none)
    (hne : NumericStops.placed declared ≠ []) (fallback : Option Value) (zoom : Float)
    (attributes : Attributes) :
    let stops := Stops.ordered totalRank (NumericStops.placed declared)
    some ((compile (.object members) .piecewise fallback).evaluate zoom attributes) =
      ((stops.filter fun stop => stop.1 ≤ zoom).getLast?.or stops.head?).map (·.2.2) := by
  intro stops
  obtain ⟨first, hfirst⟩ : ∃ first, stops.head? = some first := by
    refine ⟨_, List.head?_eq_some_head fun hnil => hne ?_⟩
    exact List.nil_perm.mp (hnil ▸ Stops.ordered_perm totalRank _)
  have hparted := (NumericStops.ordered_ofJson declared).isParted zoom
  have hstep : Stops.step? zoom (NumericStops.ofJson declared) =
      ((stops.filter fun stop => Scalar.le stop.1 zoom).getLast?.or stops.head?).map (·.2.2) := by
    rw [Stops.step?_eq, Stops.takeWhile_eq_filter hparted, ← NumericStops.map_ordered_placed,
      List.filter_map, List.getLast?_map, List.head?_map, ← Option.map_or, Option.map_map]
    rfl
  obtain ⟨taken, htaken⟩ : ∃ taken,
      (stops.filter fun stop => Scalar.le stop.1 zoom).getLast?.or stops.head? = some taken := by
    rw [hfirst]
    cases (stops.filter fun stop => Scalar.le stop.1 zoom).getLast? <;> exact ⟨_, rfl⟩
  rw [evaluate_of_zoom hproperty, declaredStops_eq hstops, ofStops, hstep, htaken]
  exact (congrArg (Option.map (·.2.2)) htaken).symm

/-- Two objects have the same members but for the stops. -/
def AlikeButStops (members members' : Keyed Json) : Prop :=
  ∀ key, key ≠ "stops" → members.get? key = members'.get? key

/-- Without a `property` no attribute drives a function. -/
theorem compile_ne_attribute {kind : StopKind} {fallback : Option Value}
    (hproperty : (members.get? "property").bind Json.string? = none) (name : String)
    (mode : AttributeMode) (default : Value) :
    compile (.object members) kind fallback ≠ .attribute name mode default := by
  rw [compile_of_zoom hproperty]
  split <;> exact PropertyFunction.noConfusion

theorem mode_eq_of_stops_eq {type : Option String} {kind : StopKind} {base : Float}
    (h : NumericStops.ofJson declared = NumericStops.ofJson declared')
    (hcategory : ∀ stops, mode type kind base declared ≠ .categorical stops) :
    mode type kind base declared = mode type kind base declared' := by
  unfold mode at hcategory ⊢
  split
  · rfl
  · exact absurd rfl (hcategory _)
  · rw [h]
  · rw [h]
  · rw [h]

/-- Stops of which no two have one input have different ranks. -/
theorem pairwise_totalRank_ne
    (hdistinct : ∀ i j x v w, NumericStops.DeclaredAt declared i x v →
      NumericStops.DeclaredAt declared j x w → i = j) :
    (declared.filterMap NumericStops.stop?).Pairwise fun s t => totalRank s.1 ≠ totalRank t.1 := by
  rw [← NumericStops.map_placed]
  refine List.pairwise_map.mpr ((NumericStops.pairwise_placed declared).imp_of_mem ?_)
  rintro ⟨x, i, v⟩ ⟨y, j, w⟩ hs ht hij hrank
  obtain rfl : x = y := Double.totalRank_injective hrank
  exact hij.ne (hdistinct i j x v w (NumericStops.mem_placed.mp hs) (NumericStops.mem_placed.mp ht))

/-- Another order of declaration compiles to the same function. -/
theorem compile_eq_of_perm (hstops : members.get? "stops" = some (.array declared))
    (hstops' : members'.get? "stops" = some (.array declared'))
    (halike : AlikeButStops members members') (hperm : declared.Perm declared')
    (hdistinct : ∀ i j x v w, NumericStops.DeclaredAt declared i x v →
      NumericStops.DeclaredAt declared j x w → i = j) (kind : StopKind) (fallback : Option Value)
    (hcategory : ∀ name stops default,
      compile (.object members) kind fallback ≠ .attribute name (.categorical stops) default) :
    compile (.object members) kind fallback = compile (.object members') kind fallback := by
  have hordered : NumericStops.ofJson declared = NumericStops.ofJson declared' :=
    Stops.ordered_eq_of_perm totalRank (hperm.filterMap _) (pairwise_totalRank_ne hdistinct)
  simp only [compile, compileObject, hstops, hstops', ← halike "base" (by decide),
    ← halike "default" (by decide), ← halike "property" (by decide), ← halike "type" (by decide)]
    at hcategory ⊢
  cases hproperty : (members.get? "property").bind Json.string? with
  | none =>
    simp only [Option.bind_some, Json.array?, Option.getD_some, hordered]
  | some name =>
    rw [hproperty] at hcategory
    refine congrArg (PropertyFunction.attribute name · _) (mode_eq_of_stops_eq hordered ?_)
    intro stops hmode
    exact hcategory name stops _ (congrArg (PropertyFunction.attribute name · _) hmode)

/-- Declared stops are taken in order.

1. Without a `property`, and if there is a stop at all, a function that moves in steps takes at a zoom
   the output of the last stop in order that is not above the zoom, and of the first if there is none;
   there is none if the zoom is NaN.
2. Another order of declaration makes no difference if no two stops have one input. It compiles to the
   same function, unless that is one by category. -/
theorem compile_orders_stops (hstops : members.get? "stops" = some (.array declared)) :
    ((members.get? "property").bind Json.string? = none →
      ∃ stops, NumericStops.InOrder declared stops ∧
        (stops ≠ [] → ∀ fallback zoom attributes,
          some ((compile (.object members) .piecewise fallback).evaluate zoom attributes) =
            ((stops.filter fun stop => stop.1 ≤ zoom).getLast?.or stops.head?).map (·.2.2))) ∧
    ∀ (members' : Keyed Json) (declared' : List Json),
      members'.get? "stops" = some (.array declared') → AlikeButStops members members' →
      declared.Perm declared' →
      (∀ i j x v w, NumericStops.DeclaredAt declared i x v → NumericStops.DeclaredAt declared j x w →
        i = j) →
      ∀ kind fallback,
        (∀ name stops default,
          compile (.object members) kind fallback ≠ .attribute name (.categorical stops) default) →
        compile (.object members) kind fallback = compile (.object members') kind fallback := by
  constructor
  · intro hproperty
    refine ⟨_, NumericStops.inOrder_ordered_placed declared, fun hne => ?_⟩
    refine evaluate_piecewise hstops hproperty fun hnil => hne ?_
    rw [hnil]
    rfl
  · intro members' declared' hstops' halike hperm hdistinct
    exact compile_eq_of_perm hstops hstops' halike hperm hdistinct

/-- Both zeros and an entry that is no stop, written from the greatest input to the least. -/
theorem compile_orders_stops_zeros :
    let stop (input : Json.Number) (output : String) : Json := .array [.number input, .string output]
    let declared : List Json :=
      [stop (.integer 5) "far", stop (.integer 0) "near", .string "nearer",
        stop (.float (-0) (by decide +kernel)) "nearest"]
    let members : Keyed Json := [("stops", .array declared)]
    let members' : Keyed Json := [("stops", .array declared.reverse)]
    members.get? "stops" = some (.array declared) ∧
      members'.get? "stops" = some (.array declared.reverse) ∧ AlikeButStops members members' ∧
      (∃ stops, NumericStops.InOrder declared stops ∧
        (stops ≠ [] → ∀ fallback zoom attributes,
          some ((compile (.object members) .piecewise fallback).evaluate zoom attributes) =
            ((stops.filter fun stop => stop.1 ≤ zoom).getLast?.or stops.head?).map (·.2.2))) ∧
      compile (.object members) .interpolated none = compile (.object members') .interpolated none := by
  intro stop declared members members'
  have halike : AlikeButStops members members' := by
    intro key hkey
    simp [members, members', hkey.symm]
  have hinputs : ∀ s ∈ NumericStops.placed declared, ∀ t ∈ NumericStops.placed declared,
      s.1 = t.1 → s.2.1 = t.2.1 := by decide +kernel
  have hdistinct : ∀ i j x v w, NumericStops.DeclaredAt declared i x v →
      NumericStops.DeclaredAt declared j x w → i = j := by
    intro i j x v w hi hj
    exact hinputs _ (NumericStops.mem_placed.mpr hi) _ (NumericStops.mem_placed.mpr hj) rfl
  have hstops : members.get? "stops" = some (.array declared) := rfl
  obtain ⟨hpiecewise, hperm⟩ := compile_orders_stops hstops
  exact ⟨rfl, rfl, halike, hpiecewise rfl, hperm members' declared.reverse rfl halike
    declared.reverse_perm.symm hdistinct .interpolated none fun name stops default =>
      compile_ne_attribute rfl name (.categorical stops) default⟩

end PropertyFunction

end MapStyling
