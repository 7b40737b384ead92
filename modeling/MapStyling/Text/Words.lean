/-!
# Words

The words of a text are its longest pieces without a space. Other white space does not divide
words.
-/

namespace MapStyling.Text

/-- The words of a list of characters. -/
def splitWords : List Char → List (List Char)
  | [] => []
  | c :: cs =>
    if c = ' ' then splitWords cs
    else
      match splitWords cs with
      | [] => [[c]]
      | w :: ws => if cs.head? = some ' ' then [c] :: w :: ws else (c :: w) :: ws

/-- The words of a text. -/
def words (text : String) : List String :=
  (splitWords text.toList).map String.ofList

/-- No word is empty. -/
theorem ne_nil_of_mem_splitWords {cs w : List Char} (h : w ∈ splitWords cs) : w ≠ [] := by
  induction cs generalizing w with
  | nil => cases h
  | cons c cs ih =>
    unfold splitWords at h
    split at h
    · exact ih h
    · split at h
      · simp_all
      next v vs hvs =>
        rw [hvs] at ih
        split at h <;> rcases List.mem_cons.mp h with rfl | h'
        · simp
        · exact ih h'
        · simp
        · exact ih (List.mem_cons_of_mem v h')

/-- No word has a space in it. -/
theorem not_mem_of_mem_splitWords {cs w : List Char} (h : w ∈ splitWords cs) : ' ' ∉ w := by
  induction cs generalizing w with
  | nil => cases h
  | cons c cs ih =>
    unfold splitWords at h
    split at h
    · exact ih h
    next hc =>
      have hc' : ' ' ≠ c := fun e => hc e.symm
      split at h
      · simp_all
      next v vs hvs =>
        rw [hvs] at ih
        split at h <;> rcases List.mem_cons.mp h with rfl | h'
        · simp [hc']
        · exact ih h'
        · simp [hc', ih List.mem_cons_self]
        · exact ih (List.mem_cons_of_mem v h')

end MapStyling.Text
