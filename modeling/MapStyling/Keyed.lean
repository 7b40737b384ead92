import MapStyling.Names

/-!
# Entries by key

A list of entries with text keys, in which the first entry of a key counts. `insert` keeps the keys
ascending (`pairwise_keys_insert`) and so free of repetitions, and a list built by it is one of the
kind (`pairwise_keys_ofList`).
Its laws are the look-up law `get?_insert`, and that of two entries set for one key the later counts
(`insert_insert_self`), while for two keys their order does not matter (`insert_comm`).
-/

namespace MapStyling

/-- Entries by key; of two entries with one key the first counts. -/
abbrev Keyed (α : Type) := List (String × α)

namespace Keyed

variable {α : Type}

/-- The entry of a key. -/
def get? : Keyed α → String → Option α
  | [], _ => none
  | (k, a) :: entries, key => if k = key then some a else get? entries key

/-- Whether a key has an entry. -/
def contains (entries : Keyed α) (key : String) : Bool :=
  (entries.get? key).isSome

/-- Sets the entry of a key. -/
def insert : Keyed α → String → α → Keyed α
  | [], key, a => [(key, a)]
  | (k, b) :: entries, key, a =>
    if key < k then (key, a) :: (k, b) :: entries
    else if k = key then (key, a) :: entries
    else (k, b) :: insert entries key a

/-- The entries of a list of pairs, of which the last of each key counts. -/
def ofList (pairs : List (String × α)) : Keyed α :=
  pairs.foldl (fun entries (key, a) => entries.insert key a) []

/-- The keys, in the order of the entries. -/
def keys (entries : Keyed α) : List String :=
  entries.map (·.1)

@[simp] theorem get?_nil (key : String) : get? ([] : Keyed α) key = none := rfl

@[simp] theorem get?_cons (k : String) (a : α) (entries : Keyed α) (key : String) :
    get? ((k, a) :: entries) key = if k = key then some a else get? entries key := rfl

theorem contains_cons (k : String) (a : α) (entries : Keyed α) (key : String) :
    contains ((k, a) :: entries) key = (decide (k = key) || contains entries key) := by
  unfold contains
  by_cases h : k = key <;> simp [h]

/-- Setting an entry changes the look-up of its key alone. -/
theorem get?_insert (entries : Keyed α) (key : String) (a : α) (key' : String) :
    (entries.insert key a).get? key' = if key = key' then some a else entries.get? key' := by
  induction entries with
  | nil => rfl
  | cons entry entries ih =>
    obtain ⟨k, b⟩ := entry
    unfold insert
    split
    · rfl
    · split
      next hk => subst hk; by_cases h : k = key' <;> simp [h]
      next hk =>
        by_cases h : key = key'
        · subst h; simp [hk, ih]
        · simp [h, ih]

/-- The keys are a set of names, to which setting an entry adds one. -/
theorem keys_insert (entries : Keyed α) (key : String) (a : α) :
    (entries.insert key a).keys = Names.insert key entries.keys := by
  induction entries with
  | nil => rfl
  | cons entry entries ih =>
    obtain ⟨k, b⟩ := entry
    unfold insert
    by_cases hlt : key < k
    · simp [keys, Names.insert, hlt]
    · by_cases heq : k = key
      · subst heq
        simp only [keys, List.map_cons, Names.insert, if_neg hlt, ↓reduceIte]
      · simp only [keys, List.map_cons, Names.insert, if_neg hlt, if_neg heq]
        exact congrArg (k :: ·) ih

/-- Setting an entry keeps the keys ascending. -/
theorem pairwise_keys_insert {entries : Keyed α} (h : entries.keys.Pairwise (· < ·)) (key : String)
    (a : α) : (entries.insert key a).keys.Pairwise (· < ·) := by
  rw [keys_insert]
  exact Names.pairwise_insert h

theorem keys_foldl_insert (pairs : List (String × α)) (entries : Keyed α) :
    keys (pairs.foldl (fun entries (key, a) => entries.insert key a) entries) =
      Names.union entries.keys (pairs.map (·.1)) := by
  induction pairs generalizing entries with
  | nil => rfl
  | cons pair pairs ih =>
    rw [List.foldl_cons, ih, keys_insert]
    rfl

/-- The keys of the entries of a list are ascending. -/
theorem pairwise_keys_ofList (pairs : List (String × α)) :
    (ofList pairs).keys.Pairwise (· < ·) := by
  rw [ofList, keys_foldl_insert]
  exact Names.pairwise_ofList _

/-- Of ascending keys each has one entry. -/
theorem nodup_keys {entries : Keyed α} (h : entries.keys.Pairwise (· < ·)) :
    entries.keys.Nodup := by
  refine h.imp fun {k k'} hlt heq => ?_
  subst heq
  exact String.lt_irrefl k hlt

theorem mem_of_mem_insert {entries : Keyed α} {key : String} {a : α} {entry : String × α}
    (h : entry ∈ entries.insert key a) : entry = (key, a) ∨ entry ∈ entries := by
  induction entries with
  | nil => exact .inl (List.mem_singleton.mp h)
  | cons first entries ih =>
    unfold insert at h
    split at h
    · exact List.mem_cons.mp h
    · split at h
      · exact (List.mem_cons.mp h).imp_right (List.mem_cons_of_mem _)
      · rcases List.mem_cons.mp h with rfl | h
        · exact .inr List.mem_cons_self
        · exact (ih h).imp_right (List.mem_cons_of_mem _)

theorem mem_of_mem_foldl_insert {pairs : List (String × α)} {entries : Keyed α}
    {entry : String × α}
    (h : entry ∈ pairs.foldl (fun entries (key, a) => entries.insert key a) entries) :
    entry ∈ pairs ∨ entry ∈ entries := by
  induction pairs generalizing entries with
  | nil => exact .inr h
  | cons pair pairs ih =>
    rcases ih h with hpairs | hentries
    · exact .inl (List.mem_cons_of_mem _ hpairs)
    · rcases mem_of_mem_insert hentries with rfl | hentries
      · exact .inl List.mem_cons_self
      · exact .inr hentries

/-- The entries of a list are among its pairs. -/
theorem mem_of_mem_ofList {pairs : List (String × α)} {entry : String × α}
    (h : entry ∈ ofList pairs) : entry ∈ pairs :=
  (mem_of_mem_foldl_insert h).resolve_right List.not_mem_nil

/-- Of two entries set for one key the later counts. -/
theorem insert_insert_self (entries : Keyed α) (key : String) (a b : α) :
    (entries.insert key a).insert key b = entries.insert key b := by
  induction entries with
  | nil => simp [insert]
  | cons entry entries ih =>
    obtain ⟨k, c⟩ := entry
    by_cases hlt : key < k
    · simp [insert, hlt]
    · by_cases heq : k = key
      · subst heq
        simp [insert]
      · simp [insert, hlt, heq, ih]

theorem insert_comm_of_lt (entries : Keyed α) {key key' : String} (h : key < key') (a b : α) :
    (entries.insert key a).insert key' b = (entries.insert key' b).insert key a := by
  have hback : ¬key' < key := fun h' => String.lt_irrefl _ (String.lt_trans h h')
  have hne : key ≠ key' := fun heq => String.lt_irrefl key (heq ▸ h)
  induction entries with
  | nil => simp [insert, h, hback, hne]
  | cons entry entries ih =>
    obtain ⟨k, c⟩ := entry
    by_cases hk : key < k
    · -- The lower key comes to the front either way.
      by_cases hk' : key' < k
      · simp [insert, hk, hk', h, hback, hne]
      · by_cases heq : k = key'
        · simp [insert, heq, h, hback, hne]
        · simp [insert, hk, hk', heq, hback, hne]
    · have hk' : ¬key' < k := fun hlt => hk (String.lt_trans h hlt)
      by_cases heq : k = key
      · subst heq
        simp [insert, hk', hne]
      · have heq' : k ≠ key' := by
          rintro rfl
          exact hk h
        simp [insert, hk, hk', heq, heq', ih]

/-- The order in which the entries of two keys are set does not matter. -/
theorem insert_comm (entries : Keyed α) {key key' : String} (hne : key ≠ key') (a b : α) :
    (entries.insert key a).insert key' b = (entries.insert key' b).insert key a := by
  by_cases h : key < key'
  · exact insert_comm_of_lt entries h a b
  · have hgt : key' < key := Decidable.byContradiction fun h' =>
      hne (String.le_antisymm (String.not_lt.mp h') (String.not_lt.mp h))
    exact (insert_comm_of_lt entries hgt b a).symm

theorem mem_of_get? {entries : Keyed α} {key : String} {a : α} (h : entries.get? key = some a) :
    (key, a) ∈ entries := by
  induction entries with
  | nil => cases h
  | cons entry entries ih =>
    rw [get?_cons] at h
    split at h
    next hkey =>
      cases h
      rw [← hkey]
      exact List.mem_cons_self
    next => exact List.mem_cons_of_mem _ (ih h)

theorem get?_eq_none_of_not_mem {entries : Keyed α} {key : String} (h : key ∉ entries.keys) :
    entries.get? key = none := by
  induction entries with
  | nil => rfl
  | cons entry entries ih =>
    obtain ⟨k, a⟩ := entry
    rw [keys, List.map_cons, List.mem_cons, not_or] at h
    rw [get?_cons, if_neg (Ne.symm h.1)]
    exact ih h.2

end Keyed

end MapStyling
