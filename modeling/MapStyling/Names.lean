/-!
# Sets of names

Finite sets of names as ascending lists without repetitions. The laws of each operation are what it
does to membership, and that it keeps the order.
-/

namespace MapStyling.Names

/-- Adds a name. -/
def insert (name : String) : List String → List String
  | [] => [name]
  | n :: names =>
    if name < n then name :: n :: names
    else if n = name then n :: names
    else n :: insert name names

/-- Adds each name of a list. -/
def union (set : List String) (names : List String) : List String :=
  names.foldl (fun set name => insert name set) set

/-- The set of the names of a list. -/
def ofList (names : List String) : List String :=
  union [] names

theorem mem_insert {name n : String} {set : List String} :
    n ∈ insert name set ↔ n = name ∨ n ∈ set := by
  induction set with
  | nil => simp [insert]
  | cons m set ih =>
    unfold insert
    split
    · simp
    · split
      next h => subst h; simp
      next => simp [ih, or_left_comm]

theorem mem_union {n : String} {set names : List String} :
    n ∈ union set names ↔ n ∈ set ∨ n ∈ names := by
  unfold union
  induction names generalizing set with
  | nil => simp
  | cons m names ih => simp [ih, mem_insert, or_assoc, or_left_comm]

theorem mem_ofList {n : String} {names : List String} : n ∈ ofList names ↔ n ∈ names := by
  simp [ofList, mem_union]

theorem lt_of_not_lt_of_ne {m n : String} (h : ¬m < n) (hne : n ≠ m) : n < m := by
  have hle : n ≤ m := String.not_lt.mp h
  exact Decidable.byContradiction fun hlt => hne (String.le_antisymm hle (String.not_lt.mp hlt))

/-- Adding a name keeps a set ascending. -/
theorem pairwise_insert {name : String} {set : List String} (h : set.Pairwise (· < ·)) :
    (insert name set).Pairwise (· < ·) := by
  induction set with
  | nil => simp [insert]
  | cons n names ih =>
    obtain ⟨hn, hnames⟩ := List.pairwise_cons.mp h
    unfold insert
    split
    next hlt =>
      refine List.pairwise_cons.mpr ⟨fun m hm => ?_, h⟩
      rcases List.mem_cons.mp hm with rfl | hm
      · exact hlt
      · exact String.lt_trans hlt (hn m hm)
    next hlt =>
      split
      · exact h
      next hne =>
        refine List.pairwise_cons.mpr ⟨fun m hm => ?_, ih hnames⟩
        rcases mem_insert.mp hm with rfl | hm
        · exact lt_of_not_lt_of_ne hlt hne
        · exact hn m hm

theorem pairwise_union {set names : List String} (h : set.Pairwise (· < ·)) :
    (union set names).Pairwise (· < ·) := by
  unfold union
  induction names generalizing set with
  | nil => exact h
  | cons m names ih => exact ih (pairwise_insert h)

/-- The set of the names of a list is ascending. -/
theorem pairwise_ofList (names : List String) : (ofList names).Pairwise (· < ·) :=
  pairwise_union List.Pairwise.nil

end MapStyling.Names
