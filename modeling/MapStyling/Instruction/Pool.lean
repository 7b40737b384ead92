import MapStyling.Instruction

/-!
# Pools of instructions

A pool keeps the slots of earlier passes for the next one, with a count of those that are active.
The next slot is handed out as it was left if it is of the wanted kind, and fresh otherwise; whoever
takes it says what to write into it.
-/

namespace MapStyling

/-- Slots of instructions, of which the first `length` are active. -/
structure Pool where
  slots : List Instruction
  length : Nat

namespace Pool

/-- A pool without slots. -/
def empty : Pool := ⟨[], 0⟩

/-- The active instructions. -/
def active (pool : Pool) : List Instruction :=
  pool.slots.take pool.length

/-- The number of slots. -/
def capacity (pool : Pool) : Nat :=
  pool.slots.length

/-- Deactivates all slots. -/
def reset (pool : Pool) : Pool :=
  { pool with length := 0 }

/-- The slot that is handed out next, if there is one already. -/
def next? (pool : Pool) : Option Instruction :=
  pool.slots[pool.length]?

/-- Activates the next slot with an instruction in it. -/
def push (pool : Pool) (instruction : Instruction) : Pool :=
  { slots :=
      if pool.length < pool.slots.length then pool.slots.set pool.length instruction
      else pool.slots ++ [instruction]
    length := pool.length + 1 }

/-- The fill that is handed out next. -/
def nextFill (pool : Pool) : Fill :=
  match pool.next? with
  | some (.fill style) => style
  | _ => {}

/-- The stroke that is handed out next. -/
def nextStroke (pool : Pool) : Stroke :=
  match pool.next? with
  | some (.stroke style) => style
  | _ => {}

/-- The label that is handed out next. -/
def nextLabel (pool : Pool) : Label :=
  match pool.next? with
  | some (.label style) => style
  | _ => {}

/-- Activates the next slot as a fill. -/
def fill (pool : Pool) (write : Fill → Fill) : Pool :=
  pool.push (.fill (write pool.nextFill))

/-- Activates the next slot as a stroke. -/
def stroke (pool : Pool) (write : Stroke → Stroke) : Pool :=
  pool.push (.stroke (write pool.nextStroke))

/-- Activates the next slot as a label. -/
def label (pool : Pool) (write : Label → Label) : Pool :=
  pool.push (.label (write pool.nextLabel))

theorem active_reset (pool : Pool) : pool.reset.active = [] := by
  simp [reset, active]

/-- In a pool whose count does not exceed its slots, a push adds one instruction at the end. -/
theorem active_push {pool : Pool} (h : pool.length ≤ pool.slots.length)
    (instruction : Instruction) : (pool.push instruction).active = pool.active ++ [instruction] := by
  unfold push active
  by_cases hlt : pool.length < pool.slots.length
  · simp [hlt, List.take_add_one, List.take_set_of_le]
  · have hlen : pool.length = pool.slots.length := by omega
    simp [hlen, List.take_of_length_le]

end Pool

end MapStyling
