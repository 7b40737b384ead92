import MapStyling.Proofs.Evaluation
import MapStyling.Proofs.Resolver.Drawing
import MapStyling.Proofs.Sheet.Defaults
import MapStyling.Proofs.Slices
import MapStyling.Proofs.Wording

/-!
# Look-ups that may fail

The zoom level of a resolution, the slots of a pool and the values of a layer are looked up by
position, and some things are taken for granted: that the slot that a pool hands out is of the wanted
kind, that a pool has as many slots as are active, that a layer has fonts. Where that is not so, the
functions of the library go on in some way. Those here stop there: they have a result only if
everything that is looked up or taken for granted is there.

They always have one: on every ladder (`zoomLevel?_eq_some`), on every pool that has a slot for each
active instruction (`Pool.put?_eq_some`), and for every layer of a sheet
(`CompiledLayer.sketches?_eq_some`, `Sheet.complete_of_mem_compile`).
-/

namespace MapStyling

/-! ## Steps that may fail -/

/-- A step that does not fail from the states of an invariant, and keeps it, never fails in a row. -/
theorem foldlM_eq_some {σ α : Type} {step? : σ → α → Option σ} {step : σ → α → σ}
    (Inv : σ → Prop) {inputs : List α}
    (hstep : ∀ state input, Inv state → input ∈ inputs →
      step? state input = some (step state input) ∧ Inv (step state input))
    {state : σ} (h : Inv state) :
    inputs.foldlM step? state = some (inputs.foldl step state) ∧ Inv (inputs.foldl step state) := by
  induction inputs generalizing state with
  | nil => exact ⟨rfl, h⟩
  | cons input inputs ih =>
    obtain ⟨hfirst, hkept⟩ := hstep state input h List.mem_cons_self
    rw [List.foldlM_cons, hfirst, List.foldl_cons]
    exact ih (fun s i hs hi => hstep s i hs (List.mem_cons_of_mem _ hi)) hkept

/-- Look-ups of which none fails find all that there is. -/
theorem mapM_eq_some {α β : Type} {find : α → Option β} {as : List α}
    (h : ∀ a ∈ as, (find a).isSome = true) : as.mapM find = some (as.filterMap find) := by
  induction as with
  | nil => rfl
  | cons a as ih =>
    obtain ⟨b, hb⟩ := Option.isSome_iff_exists.mp (h a List.mem_cons_self)
    have hrest := ih fun a' ha' => h a' (List.mem_cons_of_mem _ ha')
    rw [List.mapM_cons, hb, hrest, List.filterMap_cons_some hb]
    rfl

/-! ## Zoom levels -/

/-- The zoom level of a resolution; none if a level of the ladder is missing for it. -/
def zoomLevel? {α : Type} [Scalar α] (resolution : α) (ladder : List α) : Option α :=
  match ladder.length with
  | 0 => some (Scalar.ofNat 0)
  | last + 1 =>
    match ladder.findIdx? fun r => Scalar.eq r resolution with
    | some i => some (Scalar.ofNat i)
    | none =>
      if Scalar.isNaN resolution || Scalar.le resolution (Scalar.ofNat 0) || last == 0 then
        some (Scalar.ofNat last)
      else
        match ladder.findIdx? fun r => Scalar.lt r resolution with
        | none => some (Scalar.ofNat last)
        | some finer => zoomBetween? resolution ladder (finer - 1)

/-- Every resolution has a zoom level on every ladder. -/
theorem zoomLevel?_eq_some {α : Type} [Scalar α] (resolution : α) (ladder : List α) :
    zoomLevel? resolution ladder = some (zoomLevel resolution ladder) := by
  unfold zoomLevel? zoomLevel
  cases hlength : ladder.length with
  | zero => rfl
  | succ last =>
    dsimp only
    cases ladder.findIdx? fun r => Scalar.eq r resolution with
    | some i => rfl
    | none =>
      dsimp only
      cases hlast :
          Scalar.isNaN resolution || Scalar.le resolution (Scalar.ofNat 0) || last == 0 with
      | true => rfl
      | false =>
        cases hfiner : ladder.findIdx? fun r => Scalar.lt r resolution with
        | none => rfl
        | some finer =>
          -- The ladder has two levels at least, and one of them is finer.
          have hne : last ≠ 0 := by
            intro hzero
            rw [hzero, beq_self_eq_true, Bool.or_true] at hlast
            cases hlast
          have hbound : finer < ladder.length := (List.findIdx?_eq_some_iff_getElem.mp hfiner).1
          have hcoarse : finer - 1 < ladder.length := by omega
          have hfine : finer - 1 + 1 < ladder.length := by omega
          simp only [zoomBetween?, List.getElem?_eq_getElem hcoarse, List.getElem?_eq_getElem hfine]
          rfl

/-! ## Pools -/

/-- The instruction that a slot is made with where one of another kind was in it; none for the kinds
whose slots are not taken over. -/
def Instruction.blank? : Instruction → Option Instruction
  | .fill _ => some (.fill {})
  | .stroke _ => some (.stroke {})
  | .label _ => some (.label {})
  | .marker _ | .circle _ => none

theorem Instruction.kind_of_blank? {instruction blank : Instruction}
    (h : instruction.blank? = some blank) : blank.kind = instruction.kind := by
  cases instruction <;> cases h <;> rfl

namespace Pool

/-- A pool with its next slot activated. There is a new slot in it if there was none left. -/
def grown (pool : Pool) : Pool where
  slots := if pool.length = pool.slots.length then pool.slots ++ [.fill {}] else pool.slots
  length := pool.length + 1

/-- Writes an instruction into the slot that was activated last. -/
def write (pool : Pool) (instruction : Instruction) : Pool :=
  { pool with slots := pool.slots.set (pool.length - 1) instruction }

/-- Activates the next slot, and hands it out as it was left; none if there is no such slot. -/
def claim? (pool : Pool) : Option (Instruction × Pool) :=
  (pool.grown.slots[pool.length]?).map fun slot => (slot, pool.grown)

/-- Puts an instruction into the next slot; none if there is no such slot, or if it is not of the
kind of the instruction although it is taken over. -/
def put? (pool : Pool) (instruction : Instruction) : Option Pool := do
  let (slot, claimed) ← pool.claim?
  match instruction.blank? with
  | none => some (claimed.write instruction)
  | some blank =>
    let style := if slot.kind = instruction.kind then slot else blank
    if style.kind = instruction.kind then some (claimed.write instruction) else none

/-- The active instructions; none if there are more than there are slots. -/
def slice? (pool : Pool) : Option (List Instruction) :=
  if pool.length ≤ pool.slots.length then some pool.active else none

variable {pool : Pool}

theorem slice?_eq_some (h : pool.Fits) : pool.slice? = some pool.active :=
  if_pos h

/-- Writing into the slot that is activated is a push. -/
theorem write_grown (h : pool.Fits) (instruction : Instruction) :
    pool.grown.write instruction = pool.push instruction := by
  unfold write grown push
  rw [Nat.add_sub_cancel]
  by_cases hlength : pool.length = pool.slots.length
  · have hnot : ¬ pool.length < pool.slots.length := by omega
    simp only [if_pos hlength, if_neg hnot]
    simp [hlength]
  · have hlt : pool.length < pool.slots.length := Nat.lt_of_le_of_ne h hlength
    simp only [if_neg hlength, if_pos hlt]

/-- There is always a slot to hand out. -/
theorem exists_claim? (h : pool.Fits) : ∃ slot, pool.claim? = some (slot, pool.grown) := by
  have hbound : pool.length < pool.grown.slots.length := by
    unfold grown
    by_cases hlength : pool.length = pool.slots.length
    · simp only [if_pos hlength, List.length_append, List.length_singleton]
      omega
    · simp only [if_neg hlength]
      exact Nat.lt_of_le_of_ne h hlength
  unfold claim?
  rw [List.getElem?_eq_getElem hbound]
  exact ⟨_, rfl⟩

/-- Every instruction finds a slot of its kind. -/
theorem put?_eq_some (h : pool.Fits) (instruction : Instruction) :
    pool.put? instruction = some (pool.push instruction) := by
  obtain ⟨slot, hclaim⟩ := exists_claim? h
  unfold put?
  rw [hclaim, ← write_grown h]
  show (match instruction.blank? with
    | none => some (pool.grown.write instruction)
    | some blank =>
      if (if slot.kind = instruction.kind then slot else blank).kind = instruction.kind then
        some (pool.grown.write instruction) else none) = some (pool.grown.write instruction)
  cases hblank : instruction.blank? with
  | none => rfl
  | some blank =>
    by_cases hkind : slot.kind = instruction.kind
    · simp only [if_pos hkind]
    · simp only [if_neg hkind, if_pos (Instruction.kind_of_blank? hblank)]

end Pool

/-- A pool that counts a slot that is not there has none to hand out. -/
example : Pool.put? ⟨[], 1⟩ (.fill {}) = none := rfl

/-! ## Layers -/

/-- The values of all properties of a layer; none if one of its functions has none. -/
def Paint.evaluate? (paint : Paint) (zoom : Float) (attributes : Attributes) : Option Paint :=
  paint.mapM fun entry =>
    (entry.2.evaluate? zoom attributes).map fun value => (entry.1, .constant value)

/-- Whether the texts of icons and labels can be taken apart at their braces. -/
def PaintView.isSliceable (view : PaintView) (kind : GeometryKind) : Bool :=
  (kind.templates.filterMap view.text?).all fun template =>
    (Template.pieces? template.toList).isSome

/-- What a layer draws of a feature; none if a property has no value, if the layer has no fonts, or
if a text cannot be taken apart. -/
def CompiledLayer.sketches? (layer : CompiledLayer) (kind : GeometryKind) (zoom : Float)
    (attributes : Attributes) : Option (List Sketch) := do
  let values ← layer.paint.evaluate? zoom attributes
  let view : PaintView := ⟨values, zoom, attributes⟩
  if values.contains .textFont && view.isSliceable kind then some (view.sketches kind) else none

/-- A layer that nothing is missing of: its functions have all their stops, and there are fonts. -/
structure CompiledLayer.Complete (layer : CompiledLayer) : Prop where
  functions : ∀ entry ∈ layer.paint, entry.2.Complete
  fonts : layer.paint.contains .textFont = true

theorem Paint.evaluate?_eq_some {paint : Paint} (h : ∀ entry ∈ paint, entry.2.Complete)
    (zoom : Float) (attributes : Attributes) :
    paint.evaluate? zoom attributes =
      some (paint.map fun entry => (entry.1, .constant (entry.2.evaluate zoom attributes))) := by
  have hvalues : ∀ entry ∈ paint,
      ((entry.2.evaluate? zoom attributes).map fun value =>
        (entry.1, PropertyFunction.constant value)) =
      some (entry.1, .constant (entry.2.evaluate zoom attributes)) := by
    intro entry hentry
    rw [PropertyFunction.evaluate?_eq_some (h entry hentry), Option.map_some]
  unfold evaluate?
  rw [mapM_eq_some fun entry hentry => Option.isSome_iff_exists.mpr ⟨_, hvalues entry hentry⟩,
    List.filterMap_congr hvalues]
  exact congrArg some (congrFun List.filterMap_eq_map' paint)

theorem PaintView.isSliceable_eq_true (view : PaintView) (kind : GeometryKind) :
    view.isSliceable kind = true := by
  refine List.all_eq_true.mpr fun template _ => ?_
  rw [Template.pieces?_eq_some, Option.isSome_some]

/-- A complete layer has all sketches of every feature at every zoom level. -/
theorem CompiledLayer.sketches?_eq_some {layer : CompiledLayer} (h : layer.Complete)
    (kind : GeometryKind) (zoom : Float) (attributes : Attributes) :
    layer.sketches? kind zoom attributes = some (layer.sketches kind zoom attributes) := by
  let values : Paint :=
    layer.paint.map fun entry => (entry.1, .constant (entry.2.evaluate zoom attributes))
  have hget : ∀ property, values.get? property =
      (layer.paint.get? property).map fun function =>
        .constant (function.evaluate zoom attributes) :=
    Paint.get?_map (fun _ function => .constant (function.evaluate zoom attributes)) layer.paint
  have hfonts : values.contains .textFont = true := by
    rw [Paint.contains, hget, Option.isSome_map]
    exact h.fonts
  have hagrees : PaintView.AgreesWith ⟨values, zoom, attributes⟩ ⟨layer.paint, zoom, attributes⟩ :=
    ⟨fun property => by simp only [PaintView.value?, hget, Option.map_map]; rfl⟩
  unfold sketches?
  rw [Paint.evaluate?_eq_some h.functions]
  show (if values.contains .textFont && PaintView.isSliceable ⟨values, zoom, attributes⟩ kind then
    some (PaintView.sketches ⟨values, zoom, attributes⟩ kind) else none) = _
  rw [hfonts, PaintView.isSliceable_eq_true, PaintView.sketches_eq hagrees fun _ _ => rfl]
  rfl

/-- Nothing is missing of the layers of a sheet. -/
theorem Sheet.complete_of_mem_compile {document : Document} {selection : LayerSelection}
    {fonts : Option (List String)} {layer : CompiledLayer}
    (h : layer ∈ (compile document selection fonts).layers) : layer.Complete where
  functions := by
    intro entry hentry
    obtain ⟨original, resolved, -, -, hcompiled⟩ := exists_of_mem_compile h
    rw [hcompiled] at hentry
    exact Layer.complete_compile hentry
  fonts := contains_of_mem_compile h rfl

end MapStyling
