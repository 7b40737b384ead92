import Mathlib
import MapStyling.Text.Wrap

/-!
# Greedy lines

The words of a text are its pieces between spaces that are not empty (`Text.splitWords_eq_splitOn`).
The lines of a label are groups of them (`Wrap.groups`), and these are greedy (`Wrap.Greedy`): a group
stays within the limit from its second word on, and the next word would go over it. The invariant is
that the words on the current line stay within the limit, one after the other
(`Wrap.greedy_groupsFrom`). Nothing is asked of the widths: neither that more words are wider, nor that
the limit is a number.

A table of wrapped labels answers as wrapping does (`Wrap.Table.wrap_text`), so that its answers have
the same lines, whatever it wrapped before (`Wrap.Table.wrap_after_greedy`).
-/

namespace MapStyling

/-! ## Words -/

/-- The words of a text are its pieces between spaces, without the empty ones. -/
theorem Text.splitWords_eq_splitOn (cs : List Char) :
    splitWords cs = (cs.splitOn ' ').filter (· ≠ []) := by
  simp only [List.splitOn]
  induction cs with
  | nil => rfl
  | cons c cs ih =>
    rw [splitWords, List.splitOnP_cons_eq_if_modifyHead, ih]
    by_cases hc : c = ' '
    · simp [hc]
    · rw [if_neg hc, if_neg (by simpa using hc)]
      -- Whether the first piece of the rest is empty decides if the character is a word of its own.
      cases cs with
      | nil => simp
      | cons d ds =>
        obtain ⟨piece, pieces, hpieces⟩ :=
          List.exists_cons_of_ne_nil (List.splitOnP_ne_nil (· == ' ') ds)
        rw [List.splitOnP_cons_eq_if_modifyHead, hpieces]
        by_cases hd : d = ' '
        · subst hd
          have hword : ([c] :: piece :: pieces).filter (· ≠ []) =
              [c] :: (piece :: pieces).filter (· ≠ []) := List.filter_cons_of_pos (by simp)
          rw [if_pos (beq_self_eq_true ' '), List.modifyHead_cons, hword,
            List.filter_cons_of_neg (by simp)]
          generalize (piece :: pieces).filter (· ≠ []) = rest
          cases rest with
          | nil => rfl
          | cons word words => exact if_pos rfl
        · simp [hd]

namespace Wrap

variable {tooWide : String → Bool} {group words : List String}

/-! ## Groups of words -/

/-- A line of some words. -/
def line (group : List String) : String :=
  " ".intercalate group

theorem line_concat (h : group ≠ []) (word : String) :
    line (group ++ [word]) = line group ++ " " ++ word := by
  rw [line, String.intercalate_append_of_ne_nil h (List.cons_ne_nil word []),
    String.intercalate_singleton]
  rfl

/-- The words of the rest of a label by lines, of which the first starts with the given words. -/
def groupsFrom (tooWide : String → Bool) (group : List String) : List String → List (List String)
  | [] => [group]
  | word :: words =>
    if tooWide (line group ++ " " ++ word) then group :: groupsFrom tooWide [word] words
    else groupsFrom tooWide (group ++ [word]) words

/-- The words of a label by lines. -/
def groups (tooWide : String → Bool) : List String → List (List String)
  | [] => []
  | word :: words => groupsFrom tooWide [word] words

theorem linesFrom_eq (h : group ≠ []) (words : List String) :
    linesFrom tooWide (line group) words = (groupsFrom tooWide group words).map line := by
  induction words generalizing group with
  | nil => rfl
  | cons word words ih =>
    rw [linesFrom, groupsFrom]
    split
    · have hword : linesFrom tooWide word words = linesFrom tooWide (line [word]) words := by
        rw [line, String.intercalate_singleton]
      rw [hword, ih (List.cons_ne_nil word []), List.map_cons]
    · rw [← line_concat h, ih (List.concat_ne_nil word group)]

/-- The lines of a label are those of its groups. -/
theorem lines_eq (tooWide : String → Bool) (words : List String) :
    lines tooWide words = (groups tooWide words).map line := by
  cases words with
  | nil => rfl
  | cons word words =>
    rw [groups, ← linesFrom_eq (List.cons_ne_nil word []), line, String.intercalate_singleton]
    rfl

theorem flatten_groupsFrom (group words : List String) :
    (groupsFrom tooWide group words).flatten = group ++ words := by
  induction words generalizing group with
  | nil => simp [groupsFrom]
  | cons word words ih =>
    rw [groupsFrom]
    split
    · rw [List.flatten_cons, ih, List.singleton_append]
    · rw [ih, List.append_assoc, List.singleton_append]

/-- No word is lost, and none is moved. -/
theorem flatten_groups (tooWide : String → Bool) (words : List String) :
    (groups tooWide words).flatten = words := by
  cases words with
  | nil => rfl
  | cons word words => exact flatten_groupsFrom [word] words

/-! ## Greedy groups -/

/-- Words are grouped greedily: from its second word on a group is not too wide, and with the first
word of the next one it would be. -/
structure Greedy (tooWide : String → Bool) (groups : List (List String)) : Prop where
  nonempty : ∀ group ∈ groups, group ≠ []
  within : ∀ group ∈ groups, ∀ n, 2 ≤ n → n ≤ group.length → tooWide (line (group.take n)) = false
  full : groups.IsChain fun group next =>
    ∀ word, next.head? = some word → tooWide (line group ++ " " ++ word) = true

/-- The first group goes on from the given words. -/
theorem head?_of_mem_head?_groupsFrom (h : group ≠ []) {first : List String}
    (hfirst : first ∈ (groupsFrom tooWide group words).head?) : first.head? = group.head? := by
  induction words generalizing group with
  | nil =>
    obtain rfl : group = first := by simpa [groupsFrom] using hfirst
    rfl
  | cons word words ih =>
    rw [groupsFrom] at hfirst
    split at hfirst
    · obtain rfl : group = first := by simpa using hfirst
      rfl
    · rw [ih (List.concat_ne_nil word group) hfirst, List.head?_append_of_ne_nil group h]

/-- One more word that is not too wide keeps the line within the limit. -/
theorem within_concat {word : String} (h : group ≠ [])
    (hwithin : ∀ n, 2 ≤ n → n ≤ group.length → tooWide (line (group.take n)) = false)
    (hword : tooWide (line group ++ " " ++ word) = false) :
    ∀ n, 2 ≤ n → n ≤ (group ++ [word]).length →
      tooWide (line ((group ++ [word]).take n)) = false := by
  intro n htwo hn
  rw [List.length_append, List.length_singleton] at hn
  rcases Nat.lt_or_ge group.length n with hlt | hle
  · rw [List.take_of_length_le (by simp; omega), line_concat h]
    exact hword
  · rw [List.take_append_of_le_length hle]
    exact hwithin n htwo hle

theorem greedy_groupsFrom (h : group ≠ [])
    (hwithin : ∀ n, 2 ≤ n → n ≤ group.length → tooWide (line (group.take n)) = false)
    (words : List String) : Greedy tooWide (groupsFrom tooWide group words) := by
  induction words generalizing group with
  | nil =>
    refine ⟨?_, ?_, List.isChain_singleton group⟩
    · intro other hother
      rw [List.mem_singleton.mp hother]
      exact h
    · intro other hother
      rw [List.mem_singleton.mp hother]
      exact hwithin
  | cons word words ih =>
    rw [groupsFrom]
    split
    next hfull =>
      have hrest : Greedy tooWide (groupsFrom tooWide [word] words) := by
        apply ih (List.cons_ne_nil word [])
        intro n htwo hn
        exact absurd (htwo.trans hn) (by simp)
      refine ⟨?_, ?_, List.isChain_cons.mpr ⟨?_, hrest.full⟩⟩
      · exact List.forall_mem_cons.mpr ⟨h, hrest.nonempty⟩
      · exact List.forall_mem_cons.mpr ⟨hwithin, hrest.within⟩
      · intro next hnext first hfirst
        rw [head?_of_mem_head?_groupsFrom (List.cons_ne_nil word []) hnext] at hfirst
        cases hfirst
        exact hfull
    next hmore =>
      exact ih (List.concat_ne_nil word group) (within_concat h hwithin ((Bool.not_eq_true _).mp hmore))

theorem greedy_groups (tooWide : String → Bool) (words : List String) :
    Greedy tooWide (groups tooWide words) := by
  cases words with
  | nil => exact ⟨nofun, nofun, .nil⟩
  | cons word words =>
    apply greedy_groupsFrom (List.cons_ne_nil word [])
    intro n htwo hn
    exact absurd (htwo.trans hn) (by simp)

/-! ## Tables of wrapped labels -/

theorem ofKey_key (measure : Measurer) (text font : String) (ems : Float) :
    ofKey measure (key text font ems) = wrap measure text font ems := by
  simp only [ofKey, key, Float.ofBits_toBits]

namespace Table

variable {measure : Measurer} {table : Table}

/-- A table of wrapped labels answers as wrapping does. -/
theorem wrap_text (h : table.Agrees (ofKey measure)) (text font : String) (ems : Float) :
    (table.wrap measure text font ems).text = Wrap.wrap measure text font ems := by
  rw [← ofKey_key]
  exact Memo.fetch_answer h (key text font ems)

/-- And it stays one. -/
theorem agrees_wrap (h : table.Agrees (ofKey measure)) (text font : String) (ems : Float) :
    (table.wrap measure text font ems).table.Agrees (ofKey measure) :=
  Memo.fetch_agrees h (key text font ems)

/-- The table after some labels were wrapped: texts in fonts, each within a number of ems. -/
def after (measure : Measurer) (labels : List (String × String × Float)) : Table :=
  labels.foldl (fun table (text, font, ems) => (table.wrap measure text font ems).table) []

theorem agrees_after (measure : Measurer) (labels : List (String × String × Float)) :
    (after measure labels).Agrees (ofKey measure) := by
  induction labels using List.reverseRecOn with
  | nil => exact Memo.agrees_nil (ofKey measure)
  | append_singleton labels label ih =>
    rw [after, List.foldl_append]
    exact agrees_wrap ih label.1 label.2.1 label.2.2

/-- A label is broken into lines greedily, whatever was wrapped before with the same widths. Its lines
are groups of words with single spaces between them, and in the groups stand the pieces of the text
between spaces that are not empty, in their order. From its second word on a group does not go over
the limit, and each group but the last goes over it with the first word of the next. -/
theorem wrap_after_greedy (measure : Measurer) (labels : List (String × String × Float))
    (text font : String) (ems : Float) :
    let limit := measure font "M" * ems
    ∃ groups : List (List String),
      ((after measure labels).wrap measure text font ems).text = "\n".intercalate (groups.map line) ∧
      (∀ group ∈ groups, group ≠ []) ∧
      groups.flatten.map String.toList = (text.toList.splitOn ' ').filter (· ≠ []) ∧
      (∀ group ∈ groups, ∀ n, 2 ≤ n → n ≤ group.length →
        ¬ limit < measure font (line (group.take n))) ∧
      groups.IsChain fun group next =>
        ∀ word, next.head? = some word → limit < measure font (line group ++ " " ++ word) := by
  intro limit
  have hgreedy := greedy_groups (tooWide measure font ems) (Text.words text)
  refine ⟨groups (tooWide measure font ems) (Text.words text), ?_, hgreedy.nonempty, ?_, ?_, ?_⟩
  · rw [wrap_text (agrees_after measure labels), Wrap.wrap, lines_eq]
  · rw [flatten_groups, ← Text.splitWords_eq_splitOn, Text.words, List.map_map]
    exact List.map_id'' (fun _ => String.toList_ofList) _
  · intro group hgroup n htwo hn
    exact of_decide_eq_false (hgreedy.within group hgroup n htwo hn)
  · refine hgreedy.full.imp fun group next hfull word hword => ?_
    exact of_decide_eq_true (hfull word hword)

end Table

end Wrap

end MapStyling
