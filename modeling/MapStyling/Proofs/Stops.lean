import Mathlib
import MapStyling.Stops

/-!
# Stops and their outputs

Ordering stops neither drops nor adds any (`Stops.ordered_perm`), and puts them in the order of their
inputs, those of equal inputs as they were (`Stops.pairwise_ordered_before`). So stops of different
inputs are ordered into one list, however they stood (`Stops.ordered_eq_of_perm`).

What is read off a list of stops comes from the list: a step gives the output of one stop
(`Stops.mem_of_step?`), and a move between stops gives that of one stop or blends those of two
(`Stops.mem_or_blend_of_interpolate?`). Which stops these are is decided by the stops in front that
are not above the input (`Stops.step?_eq`, `Stops.exists_around?`).
-/

namespace MapStyling.Stops

variable {α β γ κ : Type}

section Order

variable [LE κ] [DecidableLE κ] (rank : α → κ)

theorem insert_perm (stop : α × β) (stops : List (α × β)) :
    (insert rank stop stops).Perm (stop :: stops) := by
  induction stops with
  | nil => exact .refl _
  | cons s stops ih =>
    unfold insert
    split
    · exact (ih.cons s).trans (.swap stop s stops)
    · exact .refl _

theorem foldl_insert_perm (stops sorted : List (α × β)) :
    (stops.foldl (fun sorted stop => insert rank stop sorted) sorted).Perm (sorted ++ stops) := by
  induction stops generalizing sorted with
  | nil => rw [List.append_nil]; exact .refl _
  | cons stop stops ih =>
    rw [List.foldl_cons]
    exact (ih _).trans (((insert_perm rank stop sorted).append_right stops).trans
      List.perm_middle.symm)

/-- Ordering stops neither drops nor adds any. -/
theorem ordered_perm (stops : List (α × β)) : (ordered rank stops).Perm stops :=
  foldl_insert_perm rank stops []

end Order

section Outputs

variable [LE κ] [DecidableLE κ] (rank : α → κ) (g : β → γ)

theorem insert_map (stop : α × β) (stops : List (α × β)) :
    insert rank (Prod.map id g stop) (stops.map (Prod.map id g)) =
      (insert rank stop stops).map (Prod.map id g) := by
  induction stops with
  | nil => rfl
  | cons s stops ih =>
    rw [List.map_cons, insert, insert, Prod.map_fst, Prod.map_fst, id, id]
    split
    · rw [ih, List.map_cons]
    · rfl

theorem foldl_insert_map (stops sorted : List (α × β)) :
    (stops.map (Prod.map id g)).foldl (fun sorted stop => insert rank stop sorted)
        (sorted.map (Prod.map id g)) =
      (stops.foldl (fun sorted stop => insert rank stop sorted) sorted).map (Prod.map id g) := by
  induction stops generalizing sorted with
  | nil => rfl
  | cons stop stops ih => rw [List.map_cons, List.foldl_cons, List.foldl_cons, insert_map, ih]

/-- Outputs do not matter to the order of stops. -/
theorem ordered_map (stops : List (α × β)) :
    ordered rank (stops.map (Prod.map id g)) = (ordered rank stops).map (Prod.map id g) :=
  foldl_insert_map rank g stops []

end Outputs

section Rank

variable [LinearOrder κ] (rank : α → κ)

/-- In the order of the ranks of the inputs, and of equal ranks as it was before. -/
def RanksBefore (before : α × β → α × β → Prop) (s t : α × β) : Prop :=
  rank s.1 < rank t.1 ∨ rank s.1 = rank t.1 ∧ before s t

variable {rank} {before : α × β → α × β → Prop} {s t : α × β}

theorem RanksBefore.rank_le (h : RanksBefore rank before s t) : rank s.1 ≤ rank t.1 :=
  h.elim le_of_lt fun heq => le_of_eq heq.1

/-- A stop is inserted where its input ranks, behind all of its rank. -/
theorem pairwise_insert {stop : α × β} {stops : List (α × β)}
    (h : stops.Pairwise (RanksBefore rank before)) (hstop : ∀ s ∈ stops, before s stop) :
    (insert rank stop stops).Pairwise (RanksBefore rank before) := by
  induction stops with
  | nil => exact List.pairwise_singleton _ stop
  | cons s stops ih =>
    obtain ⟨hhead, htail⟩ := List.pairwise_cons.mp h
    unfold insert
    split
    next hle =>
      have hrest := ih htail fun t ht => hstop t (List.mem_cons_of_mem _ ht)
      refine List.pairwise_cons.mpr ⟨fun t ht => ?_, hrest⟩
      rcases List.mem_cons.mp ((insert_perm rank stop stops).mem_iff.mp ht) with rfl | hmem
      · exact (lt_or_eq_of_le hle).imp_right fun heq => ⟨heq, hstop s List.mem_cons_self⟩
      · exact hhead t hmem
    next hlt =>
      have hbefore : rank stop.1 < rank s.1 := lt_of_not_ge hlt
      refine List.pairwise_cons.mpr ⟨fun t ht => .inl ?_, h⟩
      rcases List.mem_cons.mp ht with rfl | hmem
      · exact hbefore
      · exact lt_of_lt_of_le hbefore (hhead t hmem).rank_le

theorem pairwise_foldl_insert {stops sorted : List (α × β)}
    (hsorted : sorted.Pairwise (RanksBefore rank before)) (hstops : stops.Pairwise before)
    (hbetween : ∀ s ∈ sorted, ∀ t ∈ stops, before s t) :
    (stops.foldl (fun sorted stop => insert rank stop sorted) sorted).Pairwise
      (RanksBefore rank before) := by
  induction stops generalizing sorted with
  | nil => exact hsorted
  | cons stop stops ih =>
    obtain ⟨hfirst, hrest⟩ := List.pairwise_cons.mp hstops
    have hinsert := pairwise_insert hsorted fun s hs => hbetween s hs stop List.mem_cons_self
    refine ih hinsert hrest fun s hs t ht => ?_
    rcases List.mem_cons.mp ((insert_perm rank stop sorted).mem_iff.mp hs) with rfl | hmem
    · exact hfirst t ht
    · exact hbetween s hmem t (List.mem_cons_of_mem _ ht)

variable (rank)

/-- Ordered stops are in the order of their inputs, and those of equal inputs as they were. -/
theorem pairwise_ordered_before {stops : List (α × β)} (h : stops.Pairwise before) :
    (ordered rank stops).Pairwise (RanksBefore rank before) :=
  pairwise_foldl_insert .nil h fun _ hs => absurd hs List.not_mem_nil

/-- Ordered stops are in the order of their inputs. -/
theorem pairwise_ordered (stops : List (α × β)) :
    (ordered rank stops).Pairwise fun s t => rank s.1 ≤ rank t.1 :=
  (pairwise_ordered_before rank (List.pairwise_of_forall fun _ _ => trivial)).imp
    RanksBefore.rank_le

/-- Ordered stops of different inputs strictly ascend. -/
theorem pairwise_lt_ordered {stops : List (α × β)}
    (hdistinct : stops.Pairwise fun s t => rank s.1 ≠ rank t.1) :
    (ordered rank stops).Pairwise fun s t => rank s.1 < rank t.1 := by
  have hne : (ordered rank stops).Pairwise fun s t => rank s.1 ≠ rank t.1 :=
    ((ordered_perm rank stops).pairwise_iff Ne.symm).mpr hdistinct
  exact ((pairwise_ordered rank stops).and hne).imp fun h => lt_of_le_of_ne h.1 h.2

/-- Stops of different inputs are ordered into one list, however they stood. -/
theorem ordered_eq_of_perm {stops stops' : List (α × β)} (h : stops.Perm stops')
    (hdistinct : stops.Pairwise fun s t => rank s.1 ≠ rank t.1) :
    ordered rank stops = ordered rank stops' := by
  have hperm : (ordered rank stops).Perm (ordered rank stops') :=
    (ordered_perm rank stops).trans (h.trans (ordered_perm rank stops').symm)
  have hdistinct' := (h.pairwise_iff Ne.symm).mp hdistinct
  refine hperm.eq_of_pairwise (fun s t _ _ hst hts => ?_) (pairwise_lt_ordered rank hdistinct)
    (pairwise_lt_ordered rank hdistinct')
  exact absurd hst (lt_asymm hts)

end Rank

variable [Scalar α] {x : α} {stops : List (α × β)} {output : β}

theorem stepFrom_eq_or_mem (x : α) (output : β) (stops : List (α × β)) :
    stepFrom x output stops = output ∨ stepFrom x output stops ∈ stops.map (·.2) := by
  induction stops generalizing output with
  | nil => exact .inl rfl
  | cons stop stops ih =>
    unfold stepFrom
    split
    · rw [List.map_cons, List.mem_cons]
      exact .inr (ih stop.2)
    · exact .inl rfl

/-- A step gives the output of one of the stops. -/
theorem mem_of_step? (h : step? x stops = some output) : output ∈ stops.map (·.2) := by
  cases stops with
  | nil => cases h
  | cons stop stops =>
    cases h
    rcases stepFrom_eq_or_mem x stop.2 (stop :: stops) with h | h
    · rw [h]
      exact List.mem_cons_self
    · exact h

theorem mem_of_around? {lower upper : α × β} (h : around? x stops = some (lower, upper)) :
    lower ∈ stops ∧ upper ∈ stops := by
  unfold around? at h
  split at h
  · cases h
  · simp only [Option.bind_eq_bind, Option.bind_eq_some_iff] at h
    obtain ⟨l, hl, u, hu, heq⟩ := h
    cases heq
    exact ⟨List.mem_of_getElem? hl, List.mem_of_getElem? hu⟩

/-! ## Where an input stands -/

theorem stepFrom_eq (x : α) (output : β) (stops : List (α × β)) :
    stepFrom x output stops =
      ((stops.takeWhile fun stop => Scalar.le stop.1 x).getLast?.map (·.2)).getD output := by
  induction stops generalizing output with
  | nil => rfl
  | cons stop stops ih =>
    rw [stepFrom, List.takeWhile_cons]
    split
    · rw [ih, List.getLast?_cons]
      cases (stops.takeWhile fun stop => Scalar.le stop.1 x).getLast? <;> rfl
    · rfl

/-- A step gives the output of the last of the stops in front that are not above the input, and of
the first stop if there are none. -/
theorem step?_eq (x : α) (stops : List (α × β)) :
    step? x stops =
      ((stops.takeWhile fun stop => Scalar.le stop.1 x).getLast?.or stops.head?).map (·.2) := by
  cases stops with
  | nil => rfl
  | cons stop stops =>
    rw [step?, stepFrom_eq, List.head?_cons]
    cases ((stop :: stops).takeWhile fun stop => Scalar.le stop.1 x).getLast? <;> rfl

theorem countBelow_eq_findIdx (x : α) (stops : List (α × β)) :
    countBelow x stops = stops.findIdx fun stop => !Scalar.le stop.1 x := by
  rw [countBelow, List.takeWhile_eq_take_findIdx_not, List.length_take]
  exact Nat.min_eq_left List.findIdx_le_length

/-- The counted stops are not above the input. -/
theorem le_of_lt_countBelow {i : Nat} (hi : i < stops.length) (h : i < countBelow x stops) :
    Scalar.le stops[i].1 x = true := by
  rw [countBelow_eq_findIdx] at h
  exact (Bool.not_eq_false' _).mp (List.not_of_lt_findIdx h)

/-- The first stop that is not counted is above the input. -/
theorem not_le_of_eq_countBelow {i : Nat} (hi : i < stops.length) (h : i = countBelow x stops) :
    Scalar.le stops[i].1 x = false := by
  rw [countBelow_eq_findIdx] at h
  subst h
  have hfound := List.findIdx_getElem (p := fun stop : α × β => !Scalar.le stop.1 x) (w := hi)
  exact (Bool.not_eq_true' _).mp hfound

theorem getLast?_takeWhile {n : Nat} (h : countBelow x stops = n + 1) :
    (stops.takeWhile fun stop => Scalar.le stop.1 x).getLast? = stops[n]? := by
  obtain ⟨rest, hrest⟩ := List.takeWhile_prefix (l := stops) fun stop => Scalar.le stop.1 x
  have hlength : (stops.takeWhile fun stop => Scalar.le stop.1 x).length = n + 1 := h
  rw [List.getLast?_eq_getElem?, hlength, Nat.add_sub_cancel]
  conv => rhs; rw [← hrest]
  rw [List.getElem?_append_left (by omega)]

/-- Where the first stop is not above the input and the last one is, there are stops around it: the
last that is counted and the next. -/
theorem exists_around? {first last : α × β} (hfirst : stops.head? = some first)
    (hlast : stops.getLast? = some last) (hlow : Scalar.le first.1 x = true)
    (hhigh : ¬ Scalar.le last.1 x = true) :
    ∃ n, ∃ hn : n + 1 < stops.length, countBelow x stops = n + 1 ∧
      around? x stops = some (stops[n], stops[n + 1]) := by
  have hpos : 0 < countBelow x stops := by
    obtain ⟨rest, rfl⟩ := List.head?_eq_some_iff.mp hfirst
    rw [countBelow, List.takeWhile_cons, if_pos hlow]
    exact Nat.succ_pos _
  have hlt : countBelow x stops < stops.length := by
    rw [countBelow_eq_findIdx]
    refine List.findIdx_lt_length_of_exists ⟨last, List.mem_of_getLast? hlast, ?_⟩
    rw [Bool.not_eq_true] at hhigh
    rw [hhigh]
    rfl
  unfold around?
  cases hcount : countBelow x stops with
  | zero => omega
  | succ n =>
    have hn : n + 1 < stops.length := by omega
    refine ⟨n, hn, rfl, ?_⟩
    simp only [List.getElem?_eq_getElem (Nat.lt_of_succ_lt hn), List.getElem?_eq_getElem hn]
    rfl

/-- Below all stops, and for an input that is no number, stands the first output, above all the last,
and between two stops what their outputs blend into. -/
theorem interpolate?_eq {blend : α → β → β → β} {base : α} {first last : α × β}
    (hfirst : stops.head? = some first) (hlast : stops.getLast? = some last) :
    interpolate? blend base x stops =
      if Scalar.isNaN x || Scalar.le x first.1 then some first.2
      else if Scalar.le last.1 x then some last.2
      else (around? x stops).map fun (lower, upper) =>
        blend (factor base x lower.1 upper.1) lower.2 upper.2 := by
  simp only [interpolate?, hfirst, hlast, Option.bind_eq_bind, Option.bind_some]
  cases around? x stops <;> rfl

section Outputs

variable (g : β → γ)

theorem stepFrom_map (x : α) (output : β) (stops : List (α × β)) :
    stepFrom x (g output) (stops.map (Prod.map id g)) = g (stepFrom x output stops) := by
  induction stops generalizing output with
  | nil => rfl
  | cons stop stops ih =>
    show (if Scalar.le stop.1 x then stepFrom x (g stop.2) (stops.map (Prod.map id g)) else g output) =
      g (if Scalar.le stop.1 x then stepFrom x stop.2 stops else output)
    rw [ih, apply_ite g]

/-- Outputs are stepped between as their images are. -/
theorem step?_map (x : α) (stops : List (α × β)) :
    step? x (stops.map (Prod.map id g)) = (step? x stops).map g := by
  cases stops with
  | nil => rfl
  | cons stop stops => exact congrArg some (stepFrom_map g x stop.2 (stop :: stops))

theorem around?_map (x : α) (stops : List (α × β)) :
    around? x (stops.map (Prod.map id g)) =
      (around? x stops).map (Prod.map (Prod.map id g) (Prod.map id g)) := by
  have hcount : countBelow x (stops.map (Prod.map id g)) = countBelow x stops := by
    rw [countBelow, List.takeWhile_map, List.length_map]
    rfl
  unfold around?
  rw [hcount]
  cases countBelow x stops with
  | zero => rfl
  | succ n =>
    simp only [List.getElem?_map]
    cases stops[n]? <;> cases stops[n + 1]? <;> rfl

/-- Outputs are moved between as their images are, where blending goes along with taking images. -/
theorem interpolate?_map {blend : α → β → β → β} {blend' : α → γ → γ → γ}
    (hblend : ∀ t v w, blend' t (g v) (g w) = g (blend t v w)) (base x : α)
    (stops : List (α × β)) :
    interpolate? blend' base x (stops.map (Prod.map id g)) =
      (interpolate? blend base x stops).map g := by
  cases hfirst : stops.head? with
  | none =>
    rw [List.head?_eq_none_iff.mp hfirst]
    rfl
  | some first =>
    obtain ⟨rest, hrest⟩ := List.head?_eq_some_iff.mp hfirst
    have hlast : stops.getLast? = some (stops.getLast (hrest ▸ List.cons_ne_nil first rest)) :=
      List.getLast?_eq_some_getLast _
    have hfirst' : (stops.map (Prod.map id g)).head? = some (Prod.map id g first) := by
      rw [List.head?_map, hfirst, Option.map_some]
    rw [interpolate?_eq hfirst hlast, interpolate?_eq hfirst' (by rw [List.getLast?_map, hlast]; rfl),
      around?_map, Option.map_map, Prod.map_fst, Prod.map_fst, id, id]
    split
    · rfl
    · split
      · rfl
      · rw [Option.map_map]
        congr 1
        funext ⟨lower, upper⟩
        exact hblend _ _ _

end Outputs

/-- A move between stops gives the output of one of them, or blends the outputs of two. -/
theorem mem_or_blend_of_interpolate? {blend : α → β → β → β} {base : α}
    (h : interpolate? blend base x stops = some output) :
    output ∈ stops.map (·.2) ∨
      ∃ t, ∃ lower ∈ stops.map (·.2), ∃ upper ∈ stops.map (·.2), output = blend t lower upper := by
  simp only [interpolate?, Option.bind_eq_bind, Option.bind_eq_some_iff] at h
  obtain ⟨first, hfirst, last, hlast, h⟩ := h
  split at h
  · cases h
    exact .inl (List.mem_map_of_mem (List.mem_of_mem_head? hfirst))
  · split at h
    · cases h
      exact .inl (List.mem_map_of_mem (List.mem_of_getLast? hlast))
    · obtain ⟨⟨lower, upper⟩, haround, heq⟩ := Option.bind_eq_some_iff.mp h
      cases heq
      obtain ⟨hlower, hupper⟩ := mem_of_around? haround
      exact .inr ⟨_, _, List.mem_map_of_mem hlower, _, List.mem_map_of_mem hupper, rfl⟩

end MapStyling.Stops
