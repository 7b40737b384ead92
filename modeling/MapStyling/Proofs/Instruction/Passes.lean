import Mathlib
import MapStyling.Proofs.Checked

/-!
# Passes over a pool

A pool is used in passes, of which each ends with a reset. Its slots outlive the passes, so what the
next step is handed out depends on the passes before, and yet none of that may be active uninvited.

`Pool.Passes` is a record of a run that forgets nothing: every instruction that was written, by pass
and position. The invariant of a run (`Pool.Holds`) is that each slot holds what was written last at
its position. From it follow what is active and what is handed out (`Pool.run_passes`). The number of
slots takes an invariant of its own, since it is about the lengths that a run went through
(`Pool.isGreatest_capacity`).
-/

namespace MapStyling.Pool

/-! ## Runs -/

/-- A use of a pool. What is written into a slot may depend on what it is handed out with. -/
inductive Step where
  /-- Takes the next slot as a fill. -/
  | fill (write : Fill → Fill)
  /-- Takes the next slot as a stroke. -/
  | stroke (write : Stroke → Stroke)
  /-- Takes the next slot as a label. -/
  | label (write : Label → Label)
  /-- Replaces what is in the next slot. -/
  | push (instruction : Instruction)
  /-- Ends a pass. -/
  | reset

namespace Step

/-- The kind of instruction that a step asks for. -/
def kind? : Step → Option InstructionKind
  | .fill _ => some .fill
  | .stroke _ => some .stroke
  | .label _ => some .label
  | .push instruction => some instruction.kind
  | .reset => none

/-- The slot that a step is handed out, for steps that look at it. -/
def slot? (pool : Pool) : Step → Option Instruction
  | .fill _ => some (.fill pool.nextFill)
  | .stroke _ => some (.stroke pool.nextStroke)
  | .label _ => some (.label pool.nextLabel)
  | .push _ | .reset => none

/-- The instruction that a step leaves in its slot. -/
def written? (pool : Pool) : Step → Option Instruction
  | .fill write => some (.fill (write pool.nextFill))
  | .stroke write => some (.stroke (write pool.nextStroke))
  | .label write => some (.label (write pool.nextLabel))
  | .push instruction => some instruction
  | .reset => none

end Step

/-- The pool after a step. -/
def after (pool : Pool) : Step → Pool
  | .fill write => pool.fill write
  | .stroke write => pool.stroke write
  | .label write => pool.label write
  | .push instruction => pool.push instruction
  | .reset => pool.reset

/-- The pool after some steps. -/
def run (steps : List Step) : Pool :=
  steps.foldl after empty

/-- The steps behind the last reset. -/
def sinceReset (steps : List Step) : List Step :=
  steps.rtakeWhile fun step => step.kind?.isSome

/-! ## Records of passes -/

/-- What was written into a pool, pass by pass. -/
structure Passes where
  present : List Instruction
  /-- The passes that were ended, the latest first. -/
  earlier : List (List Instruction)

namespace Passes

/-- Records an instruction that was written, or that none was and the pass was ended. -/
def add (passes : Passes) : Option Instruction → Passes
  | some instruction => { passes with present := passes.present ++ [instruction] }
  | none => ⟨[], passes.present :: passes.earlier⟩

/-- What the latest of the earlier passes that came to a position left there. -/
def left? (passes : Passes) (position : Nat) : Option Instruction :=
  passes.earlier.findSome? fun pass => pass[position]?

end Passes

/-- The record of some steps from a pool and its record on. -/
def passesFrom (pool : Pool) (passes : Passes) : List Step → Passes
  | [] => passes
  | step :: steps => passesFrom (pool.after step) (passes.add (step.written? pool)) steps

/-- The record of a run. -/
def passes (steps : List Step) : Passes :=
  passesFrom empty ⟨[], []⟩ steps

theorem run_concat (steps : List Step) (step : Step) :
    run (steps ++ [step]) = (run steps).after step := by
  simp only [run, List.foldl_append, List.foldl_cons, List.foldl_nil]

theorem passesFrom_concat (pool : Pool) (passes : Passes) (steps : List Step) (step : Step) :
    passesFrom pool passes (steps ++ [step]) =
      (passesFrom pool passes steps).add (step.written? (steps.foldl after pool)) := by
  induction steps generalizing pool passes with
  | nil => rfl
  | cons first steps ih => exact ih (pool.after first) (passes.add (first.written? pool))

theorem passes_concat (steps : List Step) (step : Step) :
    passes (steps ++ [step]) = (passes steps).add (step.written? (run steps)) :=
  passesFrom_concat empty ⟨[], []⟩ steps step

/-! ## One step -/

/-- A step that asks for a kind writes an instruction of that kind, and what it writes is pushed. -/
theorem exists_written (pool : Pool) {step : Step} {kind : InstructionKind}
    (h : step.kind? = some kind) :
    ∃ written, step.written? pool = some written ∧ written.kind = kind ∧
      pool.after step = pool.push written := by
  cases step with
  | fill write => cases h; exact ⟨_, rfl, rfl, rfl⟩
  | stroke write => cases h; exact ⟨_, rfl, rfl, rfl⟩
  | label write => cases h; exact ⟨_, rfl, rfl, rfl⟩
  | push instruction => cases h; exact ⟨_, rfl, rfl, rfl⟩
  | reset => cases h

theorem eq_reset_of_kind? {step : Step} (h : step.kind? = none) : step = .reset := by
  cases step with
  | reset => rfl
  | fill write => cases h
  | stroke write => cases h
  | label write => cases h
  | push instruction => cases h

/-- The next slot if it is of the kind of a blank one, and the blank one otherwise. -/
def nextOr (pool : Pool) (blank : Instruction) : Instruction :=
  (pool.next?.filter fun slot => slot.kind = blank.kind).getD blank

theorem fill_nextFill (pool : Pool) : .fill pool.nextFill = pool.nextOr (.fill {}) := by
  unfold nextFill nextOr
  rcases pool.next? with _ | (_ | _ | _ | _ | _) <;> rfl

theorem stroke_nextStroke (pool : Pool) : .stroke pool.nextStroke = pool.nextOr (.stroke {}) := by
  unfold nextStroke nextOr
  rcases pool.next? with _ | (_ | _ | _ | _ | _) <;> rfl

theorem label_nextLabel (pool : Pool) : .label pool.nextLabel = pool.nextOr (.label {}) := by
  unfold nextLabel nextOr
  rcases pool.next? with _ | (_ | _ | _ | _ | _) <;> rfl

/-- What is handed out is the next slot, unless a blank one has to take its place. -/
theorem exists_blank {pool : Pool} {step : Step} {slot : Instruction}
    (h : step.slot? pool = some slot) :
    ∃ blank, step.kind? = some blank.kind ∧ blank.blank? = some blank ∧
      slot = pool.nextOr blank := by
  cases step with
  | fill write => cases h; exact ⟨_, rfl, rfl, pool.fill_nextFill⟩
  | stroke write => cases h; exact ⟨_, rfl, rfl, pool.stroke_nextStroke⟩
  | label write => cases h; exact ⟨_, rfl, rfl, pool.label_nextLabel⟩
  | push instruction => cases h
  | reset => cases h

theorem nextOr_cases (pool : Pool) (blank : Instruction) :
    pool.next? = some (pool.nextOr blank) ∧ (pool.nextOr blank).kind = blank.kind ∨
      pool.nextOr blank = blank ∧ ∀ left, pool.next? = some left → left.kind ≠ blank.kind := by
  unfold nextOr
  cases hnext : pool.next? with
  | none =>
    refine .inr ⟨rfl, ?_⟩
    intro left hleft
    cases hleft
  | some slot =>
    by_cases hkind : slot.kind = blank.kind
    · rw [Option.filter_some, if_pos (decide_eq_true hkind)]
      exact .inl ⟨rfl, hkind⟩
    · rw [Option.filter_some, if_neg (mt of_decide_eq_true hkind)]
      refine .inr ⟨rfl, ?_⟩
      intro left hleft
      cases hleft
      exact hkind

/-- The slot that is handed out is of the kind asked for: the next one if that is of this kind, and
a blank one if there is none such. -/
theorem slot_cases {pool : Pool} {step : Step} {slot : Instruction}
    (h : step.slot? pool = some slot) :
    step.kind? = some slot.kind ∧
      (pool.next? = some slot ∨
        slot.blank? = some slot ∧ ∀ left, pool.next? = some left → left.kind ≠ slot.kind) := by
  obtain ⟨blank, hkind, hblank, rfl⟩ := exists_blank h
  rcases pool.nextOr_cases blank with ⟨hnext, hsame⟩ | ⟨heq, hother⟩
  · rw [hsame]
    exact ⟨hkind, .inl hnext⟩
  · rw [heq]
    exact ⟨hkind, .inr ⟨hblank, hother⟩⟩

theorem getElem?_concat {α : Type} (as : List α) (a : α) (n : Nat) :
    (as ++ [a])[n]? = if n = as.length then some a else as[n]? := by
  grind

theorem getElem?_slots_push {pool : Pool} (h : pool.Fits) (instruction : Instruction) (n : Nat) :
    (pool.push instruction).slots[n]? =
      if n = pool.length then some instruction else pool.slots[n]? := by
  unfold push
  rcases Nat.lt_or_eq_of_le h with hlt | hlength
  · rw [if_pos hlt, List.getElem?_set]
    by_cases hn : n = pool.length
    · rw [if_pos hn.symm, if_pos (hn ▸ hlt), if_pos hn]
    · rw [if_neg (Ne.symm hn), if_neg hn]
  · rw [if_neg (Nat.not_lt.mpr (Nat.le_of_eq hlength.symm)), hlength]
    exact getElem?_concat pool.slots instruction n

/-! ## The invariant -/

/-- Each slot of a pool holds what was written last at its position, in this pass or before. -/
structure Holds (pool : Pool) (passes : Passes) : Prop where
  length_eq : pool.length = passes.present.length
  slots_eq : ∀ n, pool.slots[n]? = (passes.present[n]?).or (passes.left? n)

namespace Holds

variable {pool : Pool} {passes : Passes}

/-- What was written in the present pass has slots. -/
theorem fits (h : pool.Holds passes) : pool.Fits := by
  unfold Fits
  by_contra hmore
  have hlt : pool.slots.length < passes.present.length := by
    rw [← h.length_eq]
    exact Nat.not_le.mp hmore
  have hslot := h.slots_eq pool.slots.length
  rw [List.getElem?_eq_none (Nat.le_refl _), List.getElem?_eq_getElem hlt] at hslot
  cases hslot

theorem active_eq (h : pool.Holds passes) : pool.active = passes.present := by
  apply List.ext_getElem?
  intro n
  rw [active, List.getElem?_take, h.length_eq, h.slots_eq]
  by_cases hn : n < passes.present.length
  · rw [if_pos hn, List.getElem?_eq_getElem hn, Option.some_or]
  · rw [if_neg hn, List.getElem?_eq_none (Nat.not_lt.mp hn)]

/-- What the next slot holds is left from an earlier pass. -/
theorem next?_eq (h : pool.Holds passes) : pool.next? = passes.left? pool.length := by
  have hnone : passes.present[pool.length]? = none :=
    List.getElem?_eq_none (Nat.le_of_eq h.length_eq.symm)
  rw [next?, h.slots_eq, hnone, Option.none_or]

theorem push (h : pool.Holds passes) (instruction : Instruction) :
    (pool.push instruction).Holds (passes.add (some instruction)) where
  length_eq := by
    show pool.length + 1 = (passes.present ++ [instruction]).length
    rw [List.length_append, h.length_eq, List.length_singleton]
  slots_eq := by
    intro n
    show (pool.push instruction).slots[n]? =
      ((passes.present ++ [instruction])[n]?).or (passes.left? n)
    rw [getElem?_slots_push h.fits, h.slots_eq, h.length_eq]
    by_cases hn : n = passes.present.length
    · simp [hn]
    · rw [if_neg hn, getElem?_concat, if_neg hn]

theorem reset (h : pool.Holds passes) : pool.reset.Holds (passes.add none) where
  length_eq := rfl
  slots_eq := by
    intro n
    show pool.slots[n]? = (passes.present :: passes.earlier).findSome? fun pass => pass[n]?
    rw [h.slots_eq, List.findSome?_cons]
    cases passes.present[n]? <;> rfl

/-- A step keeps the invariant. -/
theorem after (h : pool.Holds passes) (step : Step) :
    (pool.after step).Holds (passes.add (step.written? pool)) := by
  cases step with
  | reset => exact h.reset
  | fill write => exact h.push _
  | stroke write => exact h.push _
  | label write => exact h.push _
  | push instruction => exact h.push instruction

end Holds

/-- A run keeps the invariant. -/
theorem holds_run (steps : List Step) : (run steps).Holds (passes steps) := by
  induction steps using List.reverseRecOn with
  | nil => exact ⟨rfl, fun _ => rfl⟩
  | append_singleton steps step ih =>
    rw [run_concat, passes_concat]
    exact ih.after step

/-- The kinds of what is active are those that were asked for since the last reset. -/
theorem kinds_active (steps : List Step) :
    (run steps).active.map Instruction.kind = (sinceReset steps).filterMap Step.kind? := by
  induction steps using List.reverseRecOn with
  | nil => rfl
  | append_singleton steps step ih =>
    rw [sinceReset, List.rtakeWhile_concat, run_concat]
    cases hkind : step.kind? with
    | none =>
      obtain rfl := eq_reset_of_kind? hkind
      exact congrArg (List.map _) (run steps).active_reset
    | some kind =>
      obtain ⟨written, -, hwritten, hafter⟩ := exists_written (run steps) hkind
      rw [hafter, active_push (holds_run steps).fits, List.map_append, ih,
        List.map_singleton, hwritten, if_pos Option.isSome_some, List.filterMap_append,
        List.filterMap_cons_some hkind]
      rfl

/-! ## The number of slots -/

/-- A step adds a slot where it needs one. -/
theorem capacity_after {pool : Pool} (h : pool.Fits) (step : Step) :
    (pool.after step).capacity = max pool.capacity (pool.after step).length := by
  cases hkind : step.kind? with
  | none =>
    obtain rfl := eq_reset_of_kind? hkind
    exact (Nat.max_zero _).symm
  | some kind =>
    obtain ⟨written, -, -, hafter⟩ := exists_written pool hkind
    rw [hafter]
    show (if pool.length < pool.slots.length then pool.slots.set pool.length written
      else pool.slots ++ [written]).length = max pool.slots.length (pool.length + 1)
    rcases Nat.lt_or_eq_of_le h with hlt | hlength
    · rw [if_pos hlt, List.length_set, Nat.max_eq_left hlt]
    · rw [if_neg (Nat.not_lt.mpr (Nat.le_of_eq hlength.symm)), List.length_append, hlength,
        List.length_singleton, Nat.max_eq_right (Nat.le_succ _)]

/-- There are as many slots as were ever active together. -/
theorem isGreatest_capacity (steps : List Step) :
    IsGreatest {n | ∃ before, before <+: steps ∧ (run before).length = n}
      (run steps).capacity := by
  induction steps using List.reverseRecOn with
  | nil =>
    refine ⟨⟨[], List.prefix_refl [], rfl⟩, ?_⟩
    rintro n ⟨before, hbefore, rfl⟩
    rw [List.prefix_nil.mp hbefore]
    exact Nat.le_refl 0
  | append_singleton steps step ih =>
    obtain ⟨⟨before, hbefore, hlength⟩, hbound⟩ := ih
    rw [run_concat, capacity_after (holds_run steps).fits]
    constructor
    · rcases le_total (run steps).capacity ((run steps).after step).length with hle | hle
      · rw [max_eq_right hle]
        exact ⟨steps ++ [step], List.prefix_refl _, congrArg Pool.length (run_concat steps step)⟩
      · rw [max_eq_left hle]
        exact ⟨before, hbefore.trans (List.prefix_append steps [step]), hlength⟩
    · rintro n ⟨during, hduring, rfl⟩
      rcases List.prefix_concat_iff.mp hduring with rfl | hduring
      · rw [run_concat]
        exact le_max_right _ _
      · exact le_trans (hbound ⟨during, hduring, rfl⟩) (le_max_left _ _)

/-! ## Passes -/

theorem length_eq_length_active (steps : List Step) :
    (run steps).length = (run steps).active.length := by
  rw [(holds_run steps).active_eq, (holds_run steps).length_eq]

/-- What a run leaves in a pool, and what the next step does with it, in four parts.
1. The active instructions are those written since the last reset, in order, and of the kinds that
   were asked for.
2. A step that asks for a kind writes an instruction of that kind behind those that are active, and
   leaves these as they are.
3. The slot that it is handed out is the instruction that the latest pass to come to this position
   left there, if that is of the same kind, and else a blank one.
4. There are as many slots as instructions were ever active together, and never fewer than before. -/
theorem run_passes (steps : List Step) (step : Step) :
    let pool := run steps
    let next := run (steps ++ [step])
    let left := (passes steps).left? pool.active.length
    (pool.active = (passes steps).present ∧
      pool.active.map Instruction.kind = (sinceReset steps).filterMap Step.kind?) ∧
    (∀ kind, step.kind? = some kind → ∃ written, step.written? pool = some written ∧
      written.kind = kind ∧ next.active = pool.active ++ [written]) ∧
    (∀ slot, step.slot? pool = some slot →
      step.kind? = some slot.kind ∧
        (left = some slot ∨
          slot.blank? = some slot ∧ ∀ other, left = some other → other.kind ≠ slot.kind)) ∧
    IsGreatest {n | ∃ before, before <+: steps ∧ (run before).active.length = n} pool.capacity ∧
    pool.capacity ≤ next.capacity := by
  intro pool next left
  have holds := holds_run steps
  refine ⟨⟨holds.active_eq, kinds_active steps⟩, ?_, ?_, ?_, ?_⟩
  · intro kind hkind
    obtain ⟨written, hwritten, hsame, hafter⟩ := exists_written pool hkind
    refine ⟨written, hwritten, hsame, ?_⟩
    show (run (steps ++ [step])).active = (run steps).active ++ [written]
    rw [run_concat, hafter, active_push holds.fits]
  · intro slot hslot
    have hleft : left = pool.next? := by
      rw [holds.next?_eq, length_eq_length_active]
    rw [hleft]
    exact slot_cases hslot
  · simpa only [← length_eq_length_active] using isGreatest_capacity steps
  · show (run steps).capacity ≤ (run (steps ++ [step])).capacity
    rw [run_concat, capacity_after holds.fits]
    exact Nat.le_max_left _ _

/-- A stroke with dashes is handed out again in the next pass, and whoever takes it for a fresh one
and adds dashes to it gets both. -/
theorem run_passes_dashes :
    let dash : Stroke → Stroke := fun style =>
      { style with pen := { style.pen with dashes := style.pen.dashes ++ [2, 1] } }
    let steps : List Step := [.stroke dash, .reset]
    Step.kind? (.stroke dash) = some .stroke ∧
      Step.slot? (run steps) (.stroke dash) = some (.stroke { pen := { dashes := [2, 1] } }) ∧
      (passes steps).left? 0 = some (.stroke { pen := { dashes := [2, 1] } }) ∧
      (run (steps ++ [.stroke dash])).active = [.stroke { pen := { dashes := [2, 1, 2, 1] } }] ∧
      1 ≤ (run (steps ++ [.stroke dash])).capacity := by
  intro dash steps
  obtain ⟨-, hwritten, hslot, -, hcapacity⟩ := run_passes steps (.stroke dash)
  have hhanded : Step.slot? (run steps) (.stroke dash) =
      some (.stroke { pen := { dashes := [2, 1] } }) := rfl
  refine ⟨rfl, hhanded, ?_, ?_, hcapacity⟩
  · obtain ⟨-, hleft | ⟨hblank, -⟩⟩ := hslot _ hhanded
    · exact hleft
    · cases hblank
  · obtain ⟨written, hsome, -, hactive⟩ := hwritten .stroke rfl
    cases hsome
    exact hactive

end MapStyling.Pool
