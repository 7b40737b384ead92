import MapStyling.Proofs.Text.Wrap
import MapStyling.Proofs.Double.Order

/-!
# Lines of a wrapped label

A label is broken between its words, and line breaks are no spaces: those that a text comes with stay
in its words. So the lines that a wrapped label is read by, which are what stands between line breaks
(`Text.lines`), are the lines of the broken ones (`Text.lines_intercalate`). The broken lines are not
empty and keep to the limit. Of the lines this is true where the text has no line breaks; else a line
is empty where two breaks meet, be they of the text or of the wrapping, or where one is at an end
(`Wrap.Table.wrap_lines`).
-/

namespace MapStyling

namespace Text

/-! ## Lines -/

/-- The lines of a text: what stands between its line breaks. -/
def lines (text : String) : List String :=
  (text.toList.splitOn '\n').map String.ofList

/-- No line break is at an end of a text, and no two are next to each other. -/
structure BreaksApart (text : List Char) : Prop where
  front : text.head? ≠ some '\n'
  back : text.getLast? ≠ some '\n'
  inside : ¬['\n', '\n'] <:+: text

/-- The first line is empty where a text is, and where it starts with a line break. -/
theorem nil_mem_splitOn_iff (text : List Char) :
    [] ∈ text.splitOn '\n' ↔
      text = [] ∨ text.head? = some '\n' ∨ [] ∈ (text.splitOn '\n').tail := by
  cases text with
  | nil => simp
  | cons c text =>
    obtain ⟨first, lines, hlines⟩ := List.exists_cons_of_ne_nil (List.splitOn_ne_nil '\n' text)
    rw [List.splitOn_cons_eq_if_modifyHead, hlines]
    by_cases hc : c = '\n'
    · simp [hc]
    · simp [hc]

/-- Another line is empty where a line break has one in front of it, or nothing behind it. -/
theorem nil_mem_tail_splitOn_iff (text : List Char) :
    [] ∈ (text.splitOn '\n').tail ↔ text.getLast? = some '\n' ∨ ['\n', '\n'] <:+: text := by
  induction text with
  | nil => simp
  | cons c text ih =>
    rw [List.splitOn_cons_eq_if_modifyHead, List.infix_cons_iff]
    by_cases hc : c = '\n'
    · subst hc
      rw [if_pos (beq_self_eq_true '\n'), List.tail_cons, nil_mem_splitOn_iff, ih]
      cases text with
      | nil => simp
      | cons d text =>
        have hpair : ['\n', '\n'] <+: '\n' :: d :: text ↔ d = '\n' := by simp [eq_comm]
        rw [hpair, List.getLast?_cons_cons]
        simp [or_left_comm]
    · have hpair : ¬['\n', '\n'] <+: c :: text := by simp [Ne.symm hc]
      rw [if_neg (by simpa using hc), List.tail_modifyHead, ih]
      cases text with
      | nil => simp [hc]
      | cons d text => simp [hpair]

/-- A text that is not empty has no empty line exactly if its line breaks stand apart. -/
theorem nil_not_mem_splitOn_iff {text : List Char} (h : text ≠ []) :
    [] ∉ text.splitOn '\n' ↔ BreaksApart text := by
  rw [nil_mem_splitOn_iff, nil_mem_tail_splitOn_iff]
  constructor
  · intro hlines
    simp only [h, false_or, not_or] at hlines
    exact ⟨hlines.1, hlines.2.1, hlines.2.2⟩
  · rintro ⟨hfront, hback, hinside⟩
    simp [h, hfront, hback, hinside]

theorem lines_append (text rest : String) :
    lines (text ++ "\n" ++ rest) = lines text ++ lines rest := by
  simp [lines, List.splitOn_append_cons_self]

/-- Texts with line breaks between them have the lines of each. -/
theorem lines_intercalate {texts : List String} (h : texts ≠ []) :
    lines ("\n".intercalate texts) = texts.flatMap lines := by
  induction texts with
  | nil => exact absurd rfl h
  | cons text texts ih =>
    cases texts with
    | nil => simp
    | cons next texts =>
      rw [String.intercalate_cons_cons, lines_append, ih (List.cons_ne_nil next texts)]
      rfl

theorem subset_intercalate {separator text : List Char} {texts : List (List Char)}
    (h : text ∈ texts) : text ⊆ separator.intercalate texts := by
  induction texts with
  | nil => cases h
  | cons first texts ih =>
    cases texts with
    | nil => simp [List.mem_singleton.mp h]
    | cons next texts =>
      rw [List.intercalate_cons_cons]
      rcases List.mem_cons.mp h with rfl | hrest
      · simp
      · exact fun c hc => List.mem_append_right _ (ih hrest hc)

/-- What stands on a line stands in the text. -/
theorem mem_of_mem_lines {text line : String} (h : line ∈ lines text) {c : Char}
    (hc : c ∈ line.toList) : c ∈ text.toList := by
  obtain ⟨cs, hcs, rfl⟩ := List.mem_map.mp h
  have hjoin : ['\n'].intercalate (text.toList.splitOn '\n') = text.toList :=
    List.intercalate_splitOn '\n'
  rw [← hjoin]
  exact subset_intercalate hcs (by simpa using hc)

theorem lines_eq_singleton {text : String} (h : '\n' ∉ text.toList) : lines text = [text] := by
  simp [lines, List.splitOn_eq_singleton h]

/-- A text that is not empty has no empty line exactly if its line breaks stand apart. -/
theorem empty_not_mem_lines_iff {text : String} (h : text ≠ "") :
    "" ∉ lines text ↔ BreaksApart text.toList := by
  rw [← nil_not_mem_splitOn_iff (by simpa using h)]
  simp [lines]

/-! ## Words -/

/-- The words of a text hold all of it but the spaces. -/
theorem flatten_splitWords (cs : List Char) :
    (splitWords cs).flatten = cs.filter (· ≠ ' ') := by
  induction cs with
  | nil => rfl
  | cons c cs ih =>
    rw [splitWords]
    split
    next hc => rw [ih, hc]; rfl
    next hc =>
      rw [List.filter_cons_of_pos (by simpa using hc), ← ih]
      split
      next hnone => simp [hnone]
      next word words hwords =>
        split <;> simp [hwords]

theorem splitWords_eq_nil_iff {cs : List Char} : splitWords cs = [] ↔ ∀ c ∈ cs, c = ' ' := by
  have hflatten : splitWords cs = [] ↔ (splitWords cs).flatten = [] := by
    constructor
    · intro h
      rw [h, List.flatten_nil]
    · intro h
      refine List.eq_nil_iff_forall_not_mem.mpr fun word hword => ?_
      exact ne_nil_of_mem_splitWords hword (List.flatten_eq_nil_iff.mp h word hword)
  rw [hflatten, flatten_splitWords, List.filter_eq_nil_iff]
  simp

/-- There are no words in spaces. -/
theorem words_eq_nil_iff {text : String} : words text = [] ↔ ∀ c ∈ text.toList, c = ' ' := by
  rw [words, List.map_eq_nil_iff, splitWords_eq_nil_iff]

variable {text word : String}

theorem ne_empty_of_mem_words (h : word ∈ words text) : word ≠ "" := by
  obtain ⟨cs, hcs, rfl⟩ := List.mem_map.mp h
  simpa using ne_nil_of_mem_splitWords hcs

theorem not_mem_of_mem_words (h : word ∈ words text) : ' ' ∉ word.toList := by
  obtain ⟨cs, hcs, rfl⟩ := List.mem_map.mp h
  simpa using not_mem_of_mem_splitWords hcs

theorem mem_of_mem_words (h : word ∈ words text) {c : Char} (hc : c ∈ word.toList) :
    c ∈ text.toList := by
  obtain ⟨cs, hcs, rfl⟩ := List.mem_map.mp h
  have hall : c ∈ (splitWords text.toList).flatten :=
    List.mem_flatten.mpr ⟨cs, hcs, by simpa using hc⟩
  rw [flatten_splitWords] at hall
  exact List.mem_of_mem_filter hall

/-- Texts that are not empty are not empty together. -/
theorem intercalate_eq_empty_iff {texts : List String} (separator : String)
    (h : ∀ text ∈ texts, text ≠ "") : separator.intercalate texts = "" ↔ texts = [] := by
  cases texts with
  | nil => simp
  | cons text texts =>
    have htext := h text List.mem_cons_self
    cases texts with
    | nil => simpa using htext
    | cons next texts => simp [String.intercalate_cons_cons, htext]

end Text

namespace Wrap

variable {wide : String → Bool} {group words : List String} {text line : String}

/-! ## Broken lines -/

/-- On a line stand its words and spaces. -/
theorem mem_of_mem_line {c : Char} (h : c ∈ (Wrap.line group).toList) :
    c = ' ' ∨ ∃ word ∈ group, c ∈ word.toList := by
  induction group with
  | nil => simp [Wrap.line] at h
  | cons word group ih =>
    cases group with
    | nil => exact .inr ⟨word, List.mem_cons_self, by simpa [Wrap.line] using h⟩
    | cons next group =>
      rw [Wrap.line, String.intercalate_cons_cons] at h
      simp only [String.toList_append, List.mem_append] at h
      rcases h with (hword | hspace) | hrest
      · exact .inr ⟨word, List.mem_cons_self, hword⟩
      · exact .inl (by simpa using hspace)
      · obtain hspace | ⟨other, hother, hc⟩ := ih hrest
        · exact .inl hspace
        · exact .inr ⟨other, List.mem_cons_of_mem word hother, hc⟩

/-- A broken line is that of a group of words. -/
theorem exists_group_of_mem_lines (h : line ∈ lines wide words) :
    ∃ group ∈ groups wide words, (∀ word ∈ group, word ∈ words) ∧ line = Wrap.line group := by
  rw [lines_eq] at h
  obtain ⟨group, hgroup, rfl⟩ := List.mem_map.mp h
  refine ⟨group, hgroup, fun word hword => ?_, rfl⟩
  rw [← flatten_groups wide words]
  exact List.mem_flatten.mpr ⟨group, hgroup, hword⟩

theorem ne_empty_of_mem_lines (h : line ∈ lines wide (Text.words text)) : line ≠ "" := by
  obtain ⟨group, hgroup, hwords, rfl⟩ := exists_group_of_mem_lines h
  have hne := fun word hword => Text.ne_empty_of_mem_words (hwords word hword)
  rw [Wrap.line, Ne, Text.intercalate_eq_empty_iff " " hne]
  exact (greedy_groups wide _).nonempty group hgroup

/-- A broken line with a space has more than one word, and so it was found not to be too wide. -/
theorem within_of_mem_lines (h : line ∈ lines wide (Text.words text))
    (hspace : ' ' ∈ line.toList) : wide line = false := by
  obtain ⟨group, hgroup, hwords, rfl⟩ := exists_group_of_mem_lines h
  have htwo : 2 ≤ group.length := by
    match group with
    | [] => simp [Wrap.line] at hspace
    | [word] =>
      have hword := Text.not_mem_of_mem_words (hwords word List.mem_cons_self)
      exact absurd (by simpa [Wrap.line] using hspace) hword
    | _ :: _ :: _ => simp
  have hwithin := (greedy_groups wide _).within group hgroup group.length htwo le_rfl
  rwa [List.take_length] at hwithin

theorem mem_of_mem_lines (h : line ∈ lines wide (Text.words text)) {c : Char}
    (hc : c ∈ line.toList) : c = ' ' ∨ c ∈ text.toList := by
  obtain ⟨group, -, hwords, rfl⟩ := exists_group_of_mem_lines h
  obtain hspace | ⟨word, hword, hc⟩ := mem_of_mem_line hc
  · exact .inl hspace
  · exact .inr (Text.mem_of_mem_words (hwords word hword) hc)

theorem lines_eq_nil_iff : lines wide words = [] ↔ words = [] := by
  constructor
  · intro h
    rw [lines_eq, List.map_eq_nil_iff] at h
    rw [← flatten_groups wide words, h, List.flatten_nil]
  · rintro rfl
    rfl

/-- A label comes to nothing exactly if there is nothing but spaces in it. -/
theorem wrap_eq_empty_iff (measure : Measurer) (text font : String) (ems : Float) :
    wrap measure text font ems = "" ↔ ∀ c ∈ text.toList, c = ' ' := by
  rw [wrap, Text.intercalate_eq_empty_iff "\n" fun line => ne_empty_of_mem_lines, lines_eq_nil_iff,
    Text.words_eq_nil_iff]

/-- The lines that a label is read by are those of the broken lines. -/
theorem lines_wrap {measure : Measurer} {font : String} {ems : Float}
    (h : wrap measure text font ems ≠ "") :
    Text.lines (wrap measure text font ems) =
      (lines (tooWide measure font ems) (Text.words text)).flatMap Text.lines := by
  refine Text.lines_intercalate fun hnone => h ?_
  rw [wrap, hnone, String.intercalate_nil]

/-- The lines that a wrapped label is read by, whatever was wrapped before with the same widths, in
six parts.
1. The label comes to nothing exactly if there is nothing but spaces in it.
2. It is made of the broken lines. None of these is empty, and one with a space in it does not go
   over the limit.
3. Its lines are the lines of the broken ones, if there is anything.
4. None of its lines is empty exactly if in each of the broken lines the line breaks stand apart: no
   two are next to each other, and none is at an end.
5. No line with a space in it goes over the limit, if no line of a broken one is wider than all of it.
6. Where the text has no line break, both are the case. -/
theorem Table.wrap_lines (measure : Measurer) (labels : List (String × String × Float))
    (text font : String) (ems : Float) :
    let limit := measure font "M" * ems
    let wrapped := ((Table.after measure labels).wrap measure text font ems).text
    let broken := lines (tooWide measure font ems) (Text.words text)
    (wrapped = "" ↔ ∀ c ∈ text.toList, c = ' ') ∧
      (wrapped = "\n".intercalate broken ∧
        ∀ line ∈ broken, line ≠ "" ∧ (' ' ∈ line.toList → ¬limit < measure font line)) ∧
      (wrapped ≠ "" →
        Text.lines wrapped = broken.flatMap Text.lines ∧
        ("" ∉ Text.lines wrapped ↔ ∀ line ∈ broken, Text.BreaksApart line.toList) ∧
        ((∀ line ∈ broken, ∀ part ∈ Text.lines line, measure font part ≤ measure font line) →
          ∀ line ∈ Text.lines wrapped, ' ' ∈ line.toList → ¬limit < measure font line) ∧
        ('\n' ∉ text.toList →
          ∀ line ∈ Text.lines wrapped,
            line ≠ "" ∧ (' ' ∈ line.toList → ¬limit < measure font line))) := by
  intro limit wrapped broken
  have hwrapped : wrapped = Wrap.wrap measure text font ems :=
    wrap_text (agrees_after measure labels) text font ems
  have hbroken : ∀ line ∈ broken, line ≠ "" ∧ (' ' ∈ line.toList → ¬limit < measure font line) := by
    intro line hline
    refine ⟨ne_empty_of_mem_lines hline, fun hspace => ?_⟩
    exact of_decide_eq_false (within_of_mem_lines hline hspace)
  rw [hwrapped]
  refine ⟨wrap_eq_empty_iff measure text font ems, ⟨rfl, hbroken⟩, fun hsome => ?_⟩
  rw [lines_wrap hsome]
  refine ⟨rfl, ?_, ?_, ?_⟩
  · simp only [List.mem_flatMap, not_exists, not_and]
    refine forall₂_congr fun line hline => ?_
    exact Text.empty_not_mem_lines_iff (hbroken line hline).1
  · intro hnarrow line hline hspace hlt
    obtain ⟨whole, hwhole, hpart⟩ := List.mem_flatMap.mp hline
    have hwide := Double.lt_of_lt_of_le hlt (hnarrow whole hwhole line hpart)
    exact (hbroken whole hwhole).2 (Text.mem_of_mem_lines hpart hspace) hwide
  · intro hbreak line hline
    obtain ⟨whole, hwhole, hpart⟩ := List.mem_flatMap.mp hline
    have hone : '\n' ∉ whole.toList := by
      intro h
      rcases mem_of_mem_lines hwhole h with hspace | htext
      · exact absurd hspace (by decide)
      · exact hbreak htext
    rw [Text.lines_eq_singleton hone, List.mem_singleton] at hpart
    rw [hpart]
    exact hbroken whole hwhole

/-- An empty line of a text is kept, and there is one between a space that is broken at and a line
break behind it. Of a text in two lines, which is not too wide as a whole, the second may be too wide
if widths do not grow with texts. -/
theorem Table.wrap_lines_blank :
    let even : Measurer := fun _ line => Float.ofNat line.length
    let odd : Measurer := fun _ line => if line = "b c" then 3 else 1
    let lines := fun measure text => Text.lines (Table.wrap measure [] text "Serif" 2).text
    lines even "a\n\nb" = ["a", "", "b"] ∧ lines even "a \nb" = ["a", "", "b"] ∧
      lines odd "a\nb c" = ["a", "b c"] ∧ odd "Serif" "M" * 2 < odd "Serif" "b c" := by
  decide +kernel

end Wrap

end MapStyling
