import MapStyling.Resolver.Desk

/-!
# Drawing as finding and putting

Drawing a sketch on a desk takes two steps: `Desk.find` looks up what the sketch comes to, and
`Desk.put` puts that into the pool (`draw_eq_put`). Finding leaves the pool alone (`pool_find`), and
what is put says nothing of the slot it is put into, for every field of a reused slot is written.

So a sketch adds at most one instruction behind those that are active (`active_draw`), of the kind
of the sketch and at the depth of its layer (`kind_depth_find`). Nothing is assumed of the tables.
-/

namespace MapStyling

/-! ## Pools -/

/-- A pool has a slot for each active instruction. -/
def Pool.Fits (pool : Pool) : Prop :=
  pool.length ≤ pool.slots.length

namespace Pool

theorem fits_empty : empty.Fits :=
  Nat.le_refl 0

theorem fits_reset (pool : Pool) : pool.reset.Fits :=
  Nat.zero_le _

theorem fits_push {pool : Pool} (h : pool.Fits) (instruction : Instruction) :
    (pool.push instruction).Fits := by
  unfold Fits push at *
  by_cases hlt : pool.length < pool.slots.length
  · simp only [hlt, if_true, List.length_set]
    omega
  · simp only [hlt, if_false, List.length_append, List.length_singleton]
    omega

end Pool

/-- The kind of instruction that a sketch comes to. -/
def Sketch.kind : Sketch → InstructionKind
  | .fill .. => .fill
  | .stroke .. => .stroke
  | .marker .. => .marker
  | .circle .. => .circle
  | .label _ => .label

namespace Desk

variable {materials : Materials} {depth : Nat}

/-- A desk whose pool is reset. -/
def reset (desk : Desk) : Desk :=
  { desk with pool := desk.pool.reset }

theorem active_reset (desk : Desk) : desk.reset.pool.active = [] :=
  Pool.active_reset desk.pool

theorem fits_reset (desk : Desk) : desk.reset.pool.Fits :=
  Pool.fits_reset desk.pool

/-- The label of a sketch, and the desk with all that was looked up for it. -/
def findLabel (materials : Materials) (depth : Nat) (desk : Desk) (sketch : LabelSketch) :
    Label × Desk :=
  let (font, desk) := desk.font sketch.font sketch.size
  let (wrapped, desk) := desk.wrap materials sketch.text font sketch.ems
  let (color, desk) := desk.colorOf materials sketch.color
  let (haloColor, desk) := desk.colorOf materials (sketch.halo.map (·.2))
  let halo := sketch.halo.bind fun (width, _) => haloColor.map fun color => Halo.mk width color
  (⟨wrapped, font, sketch.shift wrapped, color, halo, depth⟩, desk)

/-- What a sketch comes to, if to anything, and the desk with all that was looked up for it. -/
def find (materials : Materials) (depth : Nat) (desk : Desk) : Sketch → Option Instruction × Desk
  | .fill color opacity =>
    let found := desk.colorWithOpacity materials color opacity
    (found.1.map fun color => .fill ⟨color, depth⟩, found.2)
  | .stroke color opacity pen =>
    let found := desk.colorWithOpacity materials color opacity
    (found.1.map fun color => .stroke ⟨color, pen, depth⟩, found.2)
  | .marker icon size rotation opacity =>
    let found := desk.placement? materials icon
    (found.1.map fun place => .marker (place.marker size rotation opacity depth), found.2)
  | .circle radius stroke fill =>
    let found := desk.circle materials radius stroke fill
    (some (.circle { found.1 with depth := depth }), found.2)
  | .label sketch =>
    let found := desk.findLabel materials depth sketch
    (some (.label found.1), found.2)

/-- Puts an instruction into the pool, if there is one. -/
def put (desk : Desk) : Option Instruction → Desk
  | some instruction => { desk with pool := desk.pool.push instruction }
  | none => desk

/-- Drawing a sketch puts what it comes to into the pool, whatever the slot held before. -/
theorem draw_eq_put (desk : Desk) (sketch : Sketch) :
    desk.draw materials depth sketch =
      (desk.find materials depth sketch).2.put (desk.find materials depth sketch).1 := by
  cases sketch with
  | fill color opacity =>
    simp only [draw, drawFill, find]
    rcases desk.colorWithOpacity materials color opacity with ⟨_ | color, found⟩ <;> rfl
  | stroke color opacity pen =>
    simp only [draw, drawStroke, find]
    rcases desk.colorWithOpacity materials color opacity with ⟨_ | color, found⟩ <;> rfl
  | marker icon size rotation opacity =>
    simp only [draw, drawMarker, find]
    rcases desk.placement? materials icon with ⟨_ | place, found⟩ <;> rfl
  | circle radius stroke fill => rfl
  | label sketch => rfl

/-! ## Finding leaves the pool alone -/

theorem pool_colorOf (desk : Desk) (text : Option String) :
    (desk.colorOf materials text).2.pool = desk.pool := by
  cases text <;> rfl

theorem pool_placement? (desk : Desk) (icon : String) :
    (desk.placement? materials icon).2.pool = desk.pool := by
  unfold placement?
  cases desk.icons.get? icon with
  | some place => rfl
  | none => cases materials.placement? icon <;> rfl

theorem pool_circle (desk : Desk) (radius : Float) (stroke fill : Option String) :
    (desk.circle materials radius stroke fill).2.pool = desk.pool := by
  simp only [circle]
  split
  · rfl
  · exact (pool_colorOf _ fill).trans (pool_colorOf desk stroke)

theorem pool_find (desk : Desk) (sketch : Sketch) :
    (desk.find materials depth sketch).2.pool = desk.pool := by
  cases sketch with
  | fill color opacity => rfl
  | stroke color opacity pen => rfl
  | marker icon size rotation opacity => exact pool_placement? desk icon
  | circle radius stroke fill => exact pool_circle desk radius stroke fill
  | label sketch => exact (pool_colorOf _ _).trans (pool_colorOf _ _)

/-! ## What is active after drawing -/

theorem fits_draw {desk : Desk} (h : desk.pool.Fits) (sketch : Sketch) :
    (desk.draw materials depth sketch).pool.Fits := by
  rw [draw_eq_put]
  have hfound : (desk.find materials depth sketch).2.pool.Fits := by
    rw [pool_find]
    exact h
  cases (desk.find materials depth sketch).1 with
  | none => exact hfound
  | some instruction => exact Pool.fits_push hfound instruction

/-- A sketch adds what it comes to behind the active instructions. -/
theorem active_draw {desk : Desk} (h : desk.pool.Fits) (sketch : Sketch) :
    (desk.draw materials depth sketch).pool.active =
      desk.pool.active ++ (desk.find materials depth sketch).1.toList := by
  have hpool : (desk.find materials depth sketch).2.pool = desk.pool := pool_find desk sketch
  rw [draw_eq_put]
  cases (desk.find materials depth sketch).1 with
  | none => simp only [put, hpool, Option.toList_none, List.append_nil]
  | some instruction => simp only [put, hpool, Pool.active_push h, Option.toList_some]

/-- What a sketch comes to has the kind of the sketch and the depth it is drawn at. -/
theorem kind_depth_find {desk : Desk} {sketch : Sketch} {instruction : Instruction}
    (h : (desk.find materials depth sketch).1 = some instruction) :
    instruction.kind = sketch.kind ∧ instruction.depth = depth := by
  cases sketch with
  | fill color opacity =>
    obtain ⟨_, -, rfl⟩ := Option.map_eq_some_iff.mp h
    exact ⟨rfl, rfl⟩
  | stroke color opacity pen =>
    obtain ⟨_, -, rfl⟩ := Option.map_eq_some_iff.mp h
    exact ⟨rfl, rfl⟩
  | marker icon size rotation opacity =>
    obtain ⟨_, -, rfl⟩ := Option.map_eq_some_iff.mp h
    exact ⟨rfl, rfl⟩
  | circle radius stroke fill => cases h; exact ⟨rfl, rfl⟩
  | label sketch => cases h; exact ⟨rfl, rfl⟩

end Desk

end MapStyling
