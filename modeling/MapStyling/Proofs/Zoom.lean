import MapStyling.Proofs.Exact
import MapStyling.Zoom

/-!
# Zoom levels of resolutions

In exact numbers, the zoom level follows a ladder of resolutions: it is whole on the ladder, rises
strictly from one resolution of it to the next, stays at the last level below it and goes on below
zero above it (`zoomLevel_follows_ladder`).

The level is looked up anew for each resolution. What makes it one curve is that below the second
resolution a ladder goes on as the rest of it does, one level further (`exactLevel_of_le_second`).
So each law is an induction on the ladder, with the first interval as its step.
-/

namespace MapStyling

/-! ## Ladders -/

/-- A ladder of resolutions: at least one, all positive, and each above the next. -/
structure IsLadder {K : Type} [Field K] [LinearOrder K] (ladder : List K) : Prop where
  nonempty : ladder ≠ []
  positive : ∀ r ∈ ladder, 0 < r
  descending : ladder.Pairwise (· > ·)

namespace IsLadder

variable {K : Type} [Field K] [LinearOrder K] {a b : K} {rest : List K}

theorem tail (h : IsLadder (a :: b :: rest)) : IsLadder (b :: rest) where
  nonempty := List.cons_ne_nil _ _
  positive := fun r hr => h.positive r (List.mem_cons_of_mem _ hr)
  descending := (List.pairwise_cons.mp h.descending).2

theorem second_lt (h : IsLadder (a :: b :: rest)) : b < a :=
  (List.pairwise_cons.mp h.descending).1 b List.mem_cons_self

theorem second_pos (h : IsLadder (a :: b :: rest)) : 0 < b :=
  h.positive b (List.mem_cons_of_mem _ List.mem_cons_self)

/-- No resolution of a ladder is above the first. -/
theorem le_first (h : IsLadder (a :: rest)) {r : K} (hr : r ∈ a :: rest) : r ≤ a := by
  rcases List.mem_cons.mp hr with rfl | hr
  · exact le_rfl
  · exact ((List.pairwise_cons.mp h.descending).1 r hr).le

/-- No resolution of a ladder is below the last. -/
theorem last_le {ladder : List K} (h : IsLadder ladder) {r : K} (hr : r ∈ ladder) :
    ladder.getLast h.nonempty ≤ r := by
  induction ladder with
  | nil => exact absurd rfl h.nonempty
  | cons a rest ih =>
    cases rest with
    | nil => exact (List.mem_singleton.mp hr).ge
    | cons b rest =>
      rcases List.mem_cons.mp hr with rfl | hr
      · exact h.le_first (List.mem_cons_of_mem _ (List.getLast_mem _))
      · exact ih h.tail hr

end IsLadder

/-! ## The first interval -/

section Equations

variable {K : Type} [Field K] [LinearOrder K] (pow : K → K → K) (ln : K → K)

/-- The zoom level of a resolution, in exact numbers. -/
def exactLevel (ladder : List K) (resolution : K) : K :=
  @zoomLevel K (Scalar.exact pow ln) resolution ladder

/-- The zoom level of a resolution above the level `i + 1`, in exact numbers. -/
def exactBetween? (ladder : List K) (resolution : K) (i : Nat) : Option K :=
  @zoomBetween? K (Scalar.exact pow ln) resolution ladder i

theorem exactBetween?_eq (ladder : List K) (r : K) (i : Nat) :
    exactBetween? pow ln ladder r i =
      (do
        let coarse ← ladder[i]?
        let fine ← ladder[i + 1]?
        some (i + ln (coarse / r) / ln (coarse / fine))) :=
  rfl

theorem exactLevel_eq (ladder : List K) (r : K) :
    exactLevel pow ln ladder r =
      match ladder.length with
      | 0 => ((0 : Nat) : K)
      | last + 1 =>
        match ladder.findIdx? fun entry => entry = r with
        | some i => i
        | none =>
          if !decide (r = r) || decide (r ≤ ((0 : Nat) : K)) || last == 0 then last
          else
            match ladder.findIdx? fun entry => entry < r with
            | none => last
            | some finer => (exactBetween? pow ln ladder r (finer - 1)).getD last :=
  rfl

end Equations

section Steps

variable {K : Type} [Field K] [LinearOrder K] [IsStrictOrderedRing K]
  {pow : K → K → K} {ln : K → K} {a b r : K} {rest : List K}

theorem exactBetween?_cons (ladder : List K) (i : Nat) :
    exactBetween? pow ln (a :: ladder) r (i + 1) =
      (exactBetween? pow ln ladder r i).map (1 + ·) := by
  rw [exactBetween?_eq, exactBetween?_eq, List.getElem?_cons_succ, List.getElem?_cons_succ]
  cases ladder[i]? <;> cases ladder[i + 1]? <;> simp
  ring

/-- The zoom level on a ladder with a first resolution. -/
theorem exactLevel_cons (a : K) (rest : List K) (r : K) :
    exactLevel pow ln (a :: rest) r =
      match (a :: rest).findIdx? fun entry => entry = r with
      | some i => (i : K)
      | none =>
        if r ≤ 0 ∨ rest = [] then (rest.length : K)
        else
          match (a :: rest).findIdx? fun entry => entry < r with
          | none => rest.length
          | some finer => (exactBetween? pow ln (a :: rest) r (finer - 1)).getD rest.length := by
  rw [exactLevel_eq]
  simp

/-- A ladder of one resolution has one level. -/
theorem exactLevel_singleton : exactLevel pow ln [a] r = 0 := by
  rw [exactLevel_cons]
  by_cases h : a = r <;> simp [h]

/-- The first resolution has the level zero. -/
theorem exactLevel_head : exactLevel pow ln (a :: rest) a = 0 := by
  rw [exactLevel_cons, List.findIdx?_cons, decide_eq_true rfl]
  exact Nat.cast_zero

theorem exactLevel_of_lt (hab : b < a) (hrb : r < b) :
    exactLevel pow ln (a :: b :: rest) r = 1 + exactLevel pow ln (b :: rest) r := by
  -- Neither search stops at the first resolution, so each goes on in the rest of the ladder.
  have hane : decide (a = r) = false := decide_eq_false (hrb.trans hab).ne'
  have halt : decide (a < r) = false := decide_eq_false (hrb.trans hab).le.not_gt
  have hblt : decide (b < r) = false := decide_eq_false hrb.le.not_gt
  rw [exactLevel_cons, exactLevel_cons, List.findIdx?_cons, hane]
  cases hexact : (b :: rest).findIdx? fun entry => entry = r with
  | some i => simp [add_comm]
  | none =>
    by_cases hr : r ≤ 0
    · simp [hr, add_comm]
    · cases rest with
      | nil => simp [hr, List.findIdx?_cons, halt, hblt]
      | cons c rest =>
        rw [List.findIdx?_cons, halt, List.findIdx?_cons, hblt]
        cases hfiner : (c :: rest).findIdx? fun entry => entry < r with
        | none => simp [hr, add_comm]
        | some i =>
          have hnext : exactBetween? pow ln (a :: b :: c :: rest) r (i + 1) =
              (exactBetween? pow ln (b :: c :: rest) r i).map (1 + ·) := exactBetween?_cons _ i
          cases hlevel : exactBetween? pow ln (b :: c :: rest) r i with
          | none => simp [hr, hnext, hlevel, add_comm]
          | some level => simp [hr, hnext, hlevel]

/-- In the first interval, and above it, the level is the part of the interval that lies above the
resolution, on the scale of the logarithm. -/
theorem exactLevel_of_le (hln : IsLogarithm ln) (h : IsLadder (a :: b :: rest)) (hbr : b ≤ r) :
    exactLevel pow ln (a :: b :: rest) r = ln (a / r) / ln (a / b) := by
  have hb : 0 < b := h.second_pos
  have hab : b < a := h.second_lt
  have hwhole : 0 < ln (a / b) := hln.ln_div_pos hb hab
  rcases hbr.eq_or_lt with rfl | hbr
  · rw [exactLevel_cons, List.findIdx?_cons, decide_eq_false hab.ne', List.findIdx?_cons,
      decide_eq_true rfl, div_self hwhole.ne']
    simp
  by_cases har : a = r
  · subst har
    rw [exactLevel_head, hln.ln_div_self (hb.trans hab), zero_div]
  have hexact : (a :: b :: rest).findIdx? (fun entry => entry = r) = none := by
    rw [List.findIdx?_eq_none_iff]
    intro entry hentry
    refine decide_eq_false ?_
    rcases List.mem_cons.mp hentry with rfl | hentry
    · exact har
    · exact ((h.tail.le_first hentry).trans_lt hbr).ne
  have hr : ¬ r ≤ 0 := (hb.trans hbr).not_ge
  have hfirst : exactBetween? pow ln (a :: b :: rest) r 0 = some (ln (a / r) / ln (a / b)) := by
    simp [exactBetween?_eq]
  rw [exactLevel_cons, hexact]
  by_cases hlt : a < r
  · simp [hr, hlt, hfirst, List.findIdx?_cons]
  · simp [hr, hlt, hbr, hfirst, List.findIdx?_cons]

/-- On the second resolution and below it, the ladder goes on as the rest of it does, one level
further. -/
theorem exactLevel_of_le_second (hln : IsLogarithm ln) (h : IsLadder (a :: b :: rest))
    (hrb : r ≤ b) :
    exactLevel pow ln (a :: b :: rest) r = 1 + exactLevel pow ln (b :: rest) r := by
  rcases hrb.eq_or_lt with rfl | hrb
  · rw [exactLevel_of_le hln h le_rfl, exactLevel_head, add_zero,
      div_self (hln.ln_div_pos h.second_pos h.second_lt).ne']
  · exact exactLevel_of_lt h.second_lt hrb

theorem exactLevel_strictAntiOn_first (hln : IsLogarithm ln) (h : IsLadder (a :: b :: rest)) :
    StrictAntiOn (exactLevel pow ln (a :: b :: rest)) (Set.Ici b) := by
  intro r hr s hs hrs
  have hb : 0 < b := h.second_pos
  have hdescends : ln (a / s) < ln (a / r) :=
    hln.strictAntiOn_ln_div (hb.trans h.second_lt) (hb.trans_le hr) (hb.trans_le hs) hrs
  rw [exactLevel_of_le hln h hr, exactLevel_of_le hln h hs]
  exact div_lt_div_of_pos_right hdescends (hln.ln_div_pos hb h.second_lt)

end Steps

/-! ## Whole ladders -/

section Laws

variable {K : Type} [Field K] [LinearOrder K] [IsStrictOrderedRing K]
  {pow : K → K → K} {ln : K → K} {ladder : List K}

theorem exactLevel_getElem (hln : IsLogarithm ln) (h : IsLadder ladder) (i : Nat)
    (hi : i < ladder.length) : exactLevel pow ln ladder ladder[i] = i := by
  induction ladder generalizing i with
  | nil => exact absurd rfl h.nonempty
  | cons a rest ih =>
    cases i with
    | zero => exact exactLevel_head.trans Nat.cast_zero.symm
    | succ i =>
      cases rest with
      | nil => exact absurd (Nat.lt_of_succ_lt_succ hi) (Nat.not_lt_zero i)
      | cons b rest =>
        have hi' : i < (b :: rest).length := Nat.lt_of_succ_lt_succ hi
        rw [List.getElem_cons_succ,
          exactLevel_of_le_second hln h (h.tail.le_first (List.getElem_mem hi')),
          ih h.tail i hi', Nat.cast_succ, add_comm]

theorem exactLevel_of_le_last (hln : IsLogarithm ln) (h : IsLadder ladder) {r : K}
    (hr : r ≤ ladder.getLast h.nonempty) :
    exactLevel pow ln ladder r = (ladder.length - 1 : Nat) := by
  induction ladder with
  | nil => exact absurd rfl h.nonempty
  | cons a rest ih =>
    cases rest with
    | nil => exact exactLevel_singleton.trans Nat.cast_zero.symm
    | cons b rest =>
      have hr' : r ≤ (b :: rest).getLast h.tail.nonempty := hr
      have hrb : r ≤ b := hr'.trans (h.tail.le_first (List.getLast_mem _))
      rw [exactLevel_of_le_second hln h hrb, ih h.tail hr', add_comm]
      exact (Nat.cast_succ _).symm

theorem exactLevel_strictAntiOn (hln : IsLogarithm ln) (h : IsLadder ladder)
    (hlength : 1 < ladder.length) :
    StrictAntiOn (exactLevel pow ln ladder) (Set.Ici (ladder.getLast h.nonempty)) := by
  induction ladder with
  | nil => exact absurd rfl h.nonempty
  | cons a rest ih =>
    cases rest with
    | nil => exact absurd hlength (Nat.lt_irrefl 1)
    | cons b rest =>
      cases rest with
      | nil => exact exactLevel_strictAntiOn_first hln h
      | cons c rest =>
        -- From the second resolution on the rest of the ladder decides, and before it the first
        -- interval. The two meet in the second resolution.
        have hrest := ih h.tail (Nat.succ_lt_succ (Nat.succ_pos _))
        have hlast : (b :: c :: rest).getLast h.tail.nonempty ≤ b :=
          h.tail.le_first (List.getLast_mem _)
        have hlow : StrictAntiOn (exactLevel pow ln (a :: b :: c :: rest))
            (Set.Icc ((b :: c :: rest).getLast h.tail.nonempty) b) := by
          intro r hr s hs hrs
          rw [exactLevel_of_le_second hln h hr.2, exactLevel_of_le_second hln h hs.2]
          exact add_lt_add_right (hrest hr.1 hs.1 hrs) 1
        have hwhole := hlow.union (exactLevel_strictAntiOn_first hln h) (isGreatest_Icc hlast)
          isLeast_Ici
        rwa [Set.Icc_union_Ici_eq_Ici hlast] at hwhole

theorem exactLevel_antitone (hln : IsLogarithm ln) (h : IsLadder ladder) :
    Antitone (exactLevel pow ln ladder) := by
  have hbelow : AntitoneOn (exactLevel pow ln ladder) (Set.Iic (ladder.getLast h.nonempty)) := by
    intro r hr s hs _
    rw [exactLevel_of_le_last hln h hr, exactLevel_of_le_last hln h hs]
  by_cases hlength : 1 < ladder.length
  · exact hbelow.Iic_union_Ici (exactLevel_strictAntiOn hln h hlength).antitoneOn
  · obtain ⟨a, rfl⟩ : ∃ a, ladder = [a] := by
      refine List.length_eq_one_iff.mp ?_
      have := List.length_pos_of_ne_nil h.nonempty
      omega
    intro r s _
    rw [exactLevel_singleton, exactLevel_singleton]

/-- In exact numbers, and for any logarithm, the zoom level follows the ladder:

1. each resolution of the ladder has its index for a level;
2. one strictly between two of them has a level strictly between theirs;
3. one below the last has the last level;
4. one above the first has a level below zero, if there are two resolutions or more;
5. a greater resolution never has a greater level, and from the last resolution on it has a smaller
   one, if there are two or more. -/
theorem zoomLevel_follows_ladder (pow : K → K → K) (hln : IsLogarithm ln) (h : IsLadder ladder) :
    let level := exactLevel pow ln ladder
    let first := ladder.head h.nonempty
    let last := ladder.getLast h.nonempty
    (∀ i, ∀ hi : i < ladder.length, level ladder[i] = i) ∧
    (∀ i, ∀ hi : i + 1 < ladder.length, ∀ r, ladder[i + 1] < r → r < ladder[i] →
      (i : K) < level r ∧ level r < i + 1) ∧
    (∀ r, r < last → level r = (ladder.length - 1 : Nat)) ∧
    (1 < ladder.length → ∀ r, first < r → level r < 0) ∧
    (∀ r s, r ≤ s → level s ≤ level r) ∧
    (1 < ladder.length → ∀ r s, last ≤ r → r < s → level s < level r) := by
  intro level first last
  refine ⟨exactLevel_getElem hln h, ?_, fun r hr => exactLevel_of_le_last hln h hr.le, ?_,
    fun r s hrs => exactLevel_antitone hln h hrs,
    fun hlength r s hr hrs => exactLevel_strictAntiOn hln h hlength hr (hr.trans hrs.le) hrs⟩
  · intro i hi r hlow hhigh
    have hlength : 1 < ladder.length := Nat.lt_of_le_of_lt (Nat.le_add_left 1 i) hi
    have hstrict : StrictAntiOn level (Set.Ici last) := exactLevel_strictAntiOn hln h hlength
    have hfine : last ≤ ladder[i + 1] := h.last_le (List.getElem_mem hi)
    have hr : last ≤ r := hfine.trans hlow.le
    constructor
    · calc (i : K)
        _ = level ladder[i] := (exactLevel_getElem hln h i _).symm
        _ < level r := hstrict hr (hr.trans hhigh.le) hhigh
    · calc level r
        _ < level ladder[i + 1] := hstrict hfine hr hlow
        _ = i + 1 := (exactLevel_getElem hln h (i + 1) hi).trans (Nat.cast_succ i)
  · intro hlength r hr
    have hfirst : level first = 0 := by
      obtain ⟨a, rest, rfl⟩ := List.exists_cons_of_ne_nil h.nonempty
      exact exactLevel_head
    have hlow : last ≤ first := h.last_le (List.head_mem h.nonempty)
    rw [← hfirst]
    exact exactLevel_strictAntiOn hln h hlength hlow (hlow.trans hr.le) hr

/-- The levels of a ladder that is not evenly spaced, by the natural logarithm. -/
theorem zoomLevel_follows_ladder_log :
    IsLogarithm Real.log ∧ IsLadder ([100, 10, 5] : List ℝ) ∧
      let level := exactLevel Real.rpow Real.log ([100, 10, 5] : List ℝ)
      level 10 = 1 ∧ (1 < level 7 ∧ level 7 < 2) ∧ level 1 = 2 ∧ level 1000 < 0 ∧
        level 50 ≤ level 3 ∧ level 50 < level 20 := by
  have hlog : IsLogarithm Real.log := ⟨Real.log_one, Real.strictMonoOn_log⟩
  have hladder : IsLadder ([100, 10, 5] : List ℝ) := by
    refine ⟨List.cons_ne_nil _ _, ?_, ?_⟩ <;> norm_num
  refine ⟨hlog, hladder, ?_⟩
  intro level
  obtain ⟨hexact, hbetween, hlow, hhigh, hanti, hstrict⟩ :=
    zoomLevel_follows_ladder Real.rpow hlog hladder
  have hten : level 10 = 1 := by simpa using hexact 1 (by decide)
  have hseven : 1 < level 7 ∧ level 7 < 2 := by
    have := hbetween 1 (by decide) 7 (by norm_num) (by norm_num)
    norm_num at this
    exact this
  have hone : level 1 = 2 := by simpa using hlow 1 (by norm_num)
  exact ⟨hten, hseven, hone, hhigh (by decide) 1000 (by norm_num), hanti 3 50 (by norm_num),
    hstrict (by decide) 20 50 (by norm_num) (by norm_num)⟩

end Laws

end MapStyling
