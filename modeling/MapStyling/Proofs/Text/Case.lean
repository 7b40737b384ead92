import Mathlib
import MapStyling.Text.Case

/-!
# Letter case and spaces

A change of letter case loses no character, and it makes spaces of nothing but spaces. So a text is
made of spaces alone exactly if what it is transformed into is (`Text.spaces_transform_iff`).
-/

namespace MapStyling.Text

/-! ## Characters -/

/-- A mapping of characters leaves a space as it is, and makes something else of any other character.
-/
structure KeepsSpaces (map : Char → List Char) : Prop where
  space : map ' ' = [' ']
  other : ∀ c, c ≠ ' ' → ∃ d ∈ map c, d ≠ ' '

theorem KeepsSpaces.forall_mem_iff {map : Char → List Char} (h : KeepsSpaces map) (c : Char) :
    (∀ d ∈ map c, d = ' ') ↔ c = ' ' := by
  constructor
  · intro hspaces
    by_contra hc
    obtain ⟨d, hd, hother⟩ := h.other c hc
    exact hother (hspaces d hd)
  · rintro rfl d hd
    rw [h.space] at hd
    exact List.mem_singleton.mp hd

/-- Tables make something else than spaces of every other character, if all their entries do. -/
theorem exists_ne_space_mem_mapCase {runs : List CaseRun} {expansions : List (Nat × List Nat)}
    (hruns : ∀ run ∈ runs, 32 < run.first + run.shift)
    (hexpansions : ∀ e ∈ expansions, ∃ n ∈ e.2, Char.ofNat n ≠ ' ') {c : Char} (hc : c ≠ ' ') :
    ∃ d ∈ mapCase runs expansions c, d ≠ ' ' := by
  unfold mapCase
  split
  next n ns hfound =>
    obtain ⟨n, hn, hne⟩ := hexpansions _ (List.mem_of_find?_eq_some hfound)
    exact ⟨Char.ofNat n, List.mem_map_of_mem hn, hne⟩
  next =>
    split
    next run hfound =>
      refine ⟨_, List.mem_singleton_self _, fun heq => ?_⟩
      have hfirst : run.first ≤ c.toNat := by
        have hcontains := List.find?_some hfound
        simp only [CaseRun.contains, Bool.and_eq_true, decide_eq_true_eq] at hcontains
        exact hcontains.1.1
      have habove := hruns run (List.mem_of_find?_eq_some hfound)
      have hnat := congrArg Char.toNat heq
      rw [Char.toNat_ofNat] at hnat
      split at hnat
      · have hspace : (' ').toNat = 32 := rfl
        omega
      · cases hnat
    next => exact ⟨c, List.mem_singleton_self c, hc⟩

theorem keepsSpaces_upperChar : KeepsSpaces upperChar where
  space := by decide +kernel
  other _ hc := exists_ne_space_mem_mapCase (by decide +kernel) (by decide +kernel) hc

theorem keepsSpaces_lowerChar : KeepsSpaces lowerChar where
  space := by decide +kernel
  other _ hc := exists_ne_space_mem_mapCase (by decide +kernel) (by decide +kernel) hc

/-! ## Texts -/

theorem spaces_upper_iff (text : String) :
    (∀ c ∈ (upper text).toList, c = ' ') ↔ ∀ c ∈ text.toList, c = ' ' := by
  rw [upper, String.toList_ofList, List.forall_mem_flatMap]
  exact forall₂_congr fun c _ => keepsSpaces_upperChar.forall_mem_iff c

theorem spaces_lowerFrom_iff (before text : List Char) :
    (∀ c ∈ lowerFrom before text, c = ' ') ↔ ∀ c ∈ text, c = ' ' := by
  induction text generalizing before with
  | nil => simp [lowerFrom]
  | cons c text ih =>
    rw [lowerFrom, List.forall_mem_append, ih, List.forall_mem_cons]
    refine and_congr_left fun _ => ?_
    split
    next hc =>
      subst hc
      split <;> simp
    next => exact keepsSpaces_lowerChar.forall_mem_iff c

/-- A text is made of spaces alone exactly if what it is transformed into is. -/
theorem spaces_transform_iff (name : Option String) (text : String) :
    (∀ c ∈ (transform name text).toList, c = ' ') ↔ ∀ c ∈ text.toList, c = ' ' := by
  unfold transform
  split
  next => exact spaces_upper_iff text
  next =>
    rw [lower, String.toList_ofList]
    exact spaces_lowerFrom_iff [] text.toList
  next => rfl

end MapStyling.Text
