import Mathlib
import MapStyling.Font

/-!
# Font names taken apart

A font name is a family with words for weight and style behind it (`FontDescriptor.Ending`), of which
a style may be written together with the weight. Taking the name apart gives back what it was put
together from (`FontDescriptor.parse_spaced`), in every case of the letters and with any number of
spaces between the words.

The words are taken off from the end, first the style and then the weight, and `normal` is a word for
both. That no two words get mixed up is a matter of the table of weights alone, and is checked there
entry by entry (`FontDescriptor.weight?_of_mem_spellings` and the lemmas behind it). Nothing is said
of families that end in a word for a weight or a style themselves.
-/

namespace MapStyling

/-! ## Words with spaces between them -/

namespace Text

/-- A text has some words in a row, with one space or more between two of them and any number of
spaces at both ends. -/
inductive Spaced : List (List Char) → List Char → Prop
  | nil : Spaced [] []
  | space {words : List (List Char)} {text : List Char} :
    Spaced words text → Spaced words (' ' :: text)
  | word (w : List Char) {words : List (List Char)} {text : List Char} :
    (∀ c ∈ text.head?, c = ' ') → Spaced words text → Spaced (w :: words) (w ++ text)

theorem splitWords_append {word text : List Char} (hne : word ≠ []) (hspace : ' ' ∉ word)
    (htext : ∀ c ∈ text.head?, c = ' ') : splitWords (word ++ text) = word :: splitWords text := by
  induction word with
  | nil => exact absurd rfl hne
  | cons c cs ih =>
    rw [List.mem_cons, not_or] at hspace
    obtain ⟨hc, hcs⟩ := hspace
    rw [List.cons_append, splitWords, if_neg (Ne.symm hc)]
    cases cs with
    | nil =>
      -- The word ends here, so the text goes on with a space or not at all.
      rw [List.nil_append]
      cases text with
      | nil => rfl
      | cons d ds =>
        obtain rfl : d = ' ' := htext d rfl
        cases splitWords (' ' :: ds) with
        | nil => rfl
        | cons w ws => exact if_pos rfl
    | cons d ds =>
      rw [ih (List.cons_ne_nil d ds) hcs]
      have hd : (d :: ds ++ text).head? ≠ some ' ' := by
        intro heq
        cases heq
        exact hcs List.mem_cons_self
      exact if_neg hd

/-- Splitting a text gives back the words that it has in a row. -/
theorem Spaced.splitWords_eq {words : List (List Char)} {text : List Char} (h : Spaced words text)
    (hwords : ∀ word ∈ words, word ≠ [] ∧ ' ' ∉ word) : splitWords text = words := by
  induction h with
  | nil => rfl
  | space _ ih =>
    rw [splitWords, if_pos rfl]
    exact ih hwords
  | word w htext _ ih =>
    obtain ⟨⟨hne, hspace⟩, hrest⟩ := List.forall_mem_cons.mp hwords
    rw [splitWords_append hne hspace htext, ih hrest]

end Text

namespace FontDescriptor

/-! ## Words for weights and styles -/

/-- The ways to write the weights in lower case: with their hyphens, and without. -/
def spellings : List (List Char × Nat) :=
  weightWords.flatMap fun (keyword, weight) =>
    [(keyword.toList, weight), (keyword.toList.filter (· ≠ '-'), weight)]

/-- A word stands for a weight: it is one of the table, in any case of its letters, with its hyphens
or without. -/
def SpellsWeight (word : String) (weight : Nat) : Prop :=
  (word.toLower.toList, weight) ∈ spellings

/-- A word stands for a style other than the normal one, in any case of its letters. -/
def SpellsStyle (word : String) (style : FontStyle) : Prop :=
  style ≠ .normal ∧ word.toLower = style.name

/-- The words behind a family, for a weight and a style. Without a word for it the weight is 400, and
the style is normal. Behind a weight the style may stand in the same word. -/
inductive Ending : Nat → FontStyle → List String → Prop
  | plain : Ending 400 .normal []
  | weight {word : String} {weight : Nat} :
    SpellsWeight word weight → Ending weight .normal [word]
  | style {word : String} {style : FontStyle} : SpellsStyle word style → Ending 400 style [word]
  | apart {word word' : String} {weight : Nat} {style : FontStyle} :
    SpellsWeight word weight → SpellsStyle word' style → Ending weight style [word, word']
  | fused {word word' : String} {weight : Nat} {style : FontStyle} :
    SpellsWeight word weight → SpellsStyle word' style → Ending weight style [word ++ word']

/-- A word stands for nothing but a family: not for a weight, and it neither is `normal` nor ends in
another style. -/
structure IsFamilyWord (word : String) : Prop where
  not_weight : ∀ weight, ¬SpellsWeight word weight
  not_normal : word.toLower ≠ FontStyle.normal.name
  not_styled : ∀ style : FontStyle, style ≠ .normal → ¬style.name.toList <:+ word.toLower.toList

/-! ### The table -/

/-- No two entries of the table share a spelling. -/
theorem weight?_of_mem_spellings : ∀ entry ∈ spellings, weight? entry.1 = some entry.2 := by
  decide +kernel

theorem word_of_mem_spellings : ∀ entry ∈ spellings, entry.1 ≠ [] ∧ ' ' ∉ entry.1 := by
  decide +kernel

/-- A weight is not taken for a style, but for the one that is a weight as well. -/
theorem style?_of_mem_spellings : ∀ entry ∈ spellings,
    entry.1 = FontStyle.normal.name.toList ∧ entry.2 = 400 ∨
      style? entry.1 = none ∧ fusedStyle? entry.1 = none := by
  decide +kernel

/-- A style is told from the weight in front of it. -/
theorem fusedStyle?_of_mem_spellings : ∀ entry ∈ spellings, ∀ style ∈ [FontStyle.italic, .oblique],
    style? (entry.1 ++ style.name.toList) = none ∧
      fusedStyle? (entry.1 ++ style.name.toList) = some (style, entry.1) := by
  decide +kernel

theorem weight?_eq_some_iff {word : List Char} {weight : Nat} :
    weight? word = some weight ↔ (word, weight) ∈ spellings := by
  constructor
  · intro h
    obtain ⟨entry, hfind, rfl⟩ := Option.map_eq_some_iff.mp h
    have hfound := List.find?_some hfind
    have hsame : word = entry.1.toList ∨ word = entry.1.toList.filter (· ≠ '-') :=
      of_decide_eq_true hfound
    refine List.mem_flatMap.mpr ⟨entry, List.mem_of_find?_eq_some hfind, ?_⟩
    rcases hsame with rfl | rfl
    · exact List.mem_cons_self
    · exact List.mem_cons_of_mem _ List.mem_cons_self
  · exact fun h => weight?_of_mem_spellings _ h

/-! ## Words of a name -/

theorem toList_toLower (word : String) : word.toLower.toList = word.toList.map Char.toLower :=
  String.toList_map

theorem SpellsStyle.toList_eq {word : String} {style : FontStyle} (h : SpellsStyle word style) :
    word.toList.map Char.toLower = style.name.toList := by
  rw [← toList_toLower, h.2]

theorem SpellsStyle.mem {word : String} {style : FontStyle} (h : SpellsStyle word style) :
    style ∈ [FontStyle.italic, .oblique] := by
  cases style with
  | normal => exact absurd rfl h.1
  | italic => exact List.mem_cons_self
  | oblique => exact List.mem_cons_of_mem _ List.mem_cons_self

/-- A word is as empty as it is in lower case, and has as many spaces. -/
theorem word_of_lower {word : List Char}
    (h : word.map Char.toLower ≠ [] ∧ ' ' ∉ word.map Char.toLower) : word ≠ [] ∧ ' ' ∉ word := by
  obtain ⟨hne, hspace⟩ := h
  refine ⟨fun heq => hne (List.map_eq_nil_iff.mpr heq), ?_⟩
  intro hmem
  exact hspace (List.mem_map.mpr ⟨' ', hmem, rfl⟩)

theorem SpellsWeight.word {word : String} {weight : Nat} (h : SpellsWeight word weight) :
    word.toList ≠ [] ∧ ' ' ∉ word.toList := by
  apply word_of_lower
  rw [← toList_toLower]
  exact word_of_mem_spellings _ h

theorem SpellsStyle.word {word : String} {style : FontStyle} (h : SpellsStyle word style) :
    word.toList ≠ [] ∧ ' ' ∉ word.toList := by
  apply word_of_lower
  rw [h.toList_eq]
  cases style <;> decide

/-- The words behind a family are words. -/
theorem Ending.words {weight : Nat} {style : FontStyle} {ending : List String}
    (h : Ending weight style ending) : ∀ word ∈ ending, word.toList ≠ [] ∧ ' ' ∉ word.toList := by
  cases h with
  | plain => exact fun _ hmem => absurd hmem List.not_mem_nil
  | weight hweight => exact List.forall_mem_singleton.mpr hweight.word
  | style hstyle => exact List.forall_mem_singleton.mpr hstyle.word
  | apart hweight hstyle =>
    exact List.forall_mem_cons.mpr ⟨hweight.word, List.forall_mem_singleton.mpr hstyle.word⟩
  | fused hweight hstyle =>
    refine List.forall_mem_singleton.mpr ?_
    obtain ⟨hne, hspace⟩ := hweight.word
    rw [String.toList_append]
    refine ⟨fun heq => hne (List.append_eq_nil_iff.mp heq).1, ?_⟩
    intro hmem
    exact (List.mem_append.mp hmem).elim hspace hstyle.word.2

/-! ## Taking words off -/

theorem lastWord?_concat (words : List (List Char)) (word : String) :
    lastWord? (words ++ [word.toList]) = some word.toLower.toList := by
  rw [lastWord?, List.getLast?_concat, toList_toLower]
  rfl

/-- A word for a style is taken off. -/
theorem takeStyle_of_style {words : List (List Char)} {word : String} {style : FontStyle}
    (h : style? word.toLower.toList = some style) :
    takeStyle (words ++ [word.toList]) = (style, words, lastWord? words) := by
  simp only [takeStyle, lastWord?_concat, h, List.dropLast_concat]

/-- A style at the end of a word is taken off the word. -/
theorem takeStyle_of_fused {words : List (List Char)} {word : String} {style : FontStyle}
    {stem : List Char} (hstyle : style? word.toLower.toList = none)
    (h : fusedStyle? word.toLower.toList = some (style, stem)) :
    takeStyle (words ++ [word.toList]) = (style, words ++ [word.toList], some stem) := by
  simp only [takeStyle, lastWord?_concat, hstyle, h]

/-- A word for something else stays. -/
theorem takeStyle_of_other {words : List (List Char)} {word : String}
    (hstyle : style? word.toLower.toList = none)
    (h : fusedStyle? word.toLower.toList = none) :
    takeStyle (words ++ [word.toList]) =
      (.normal, words ++ [word.toList], some word.toLower.toList) := by
  simp only [takeStyle, lastWord?_concat, hstyle, h]

theorem SpellsStyle.style?_eq {word : String} {style : FontStyle} (h : SpellsStyle word style) :
    style? word.toLower.toList = some style := by
  rw [h.2]
  cases style <;> decide

theorem IsFamilyWord.style?_eq_none {word : String} (h : IsFamilyWord word) :
    style? word.toLower.toList = none := by
  apply List.find?_eq_none.mpr
  intro style _ heq
  have hname : style.name.toList = word.toLower.toList := of_decide_eq_true heq
  by_cases hnormal : style = .normal
  · subst hnormal
    exact h.not_normal (String.toList_injective hname.symm)
  · exact h.not_styled style hnormal (hname ▸ List.suffix_refl _)

theorem IsFamilyWord.fusedStyle?_eq_none {word : String} (h : IsFamilyWord word) :
    fusedStyle? word.toLower.toList = none := by
  unfold fusedStyle?
  rw [Option.map_eq_none_iff]
  apply List.find?_eq_none.mpr
  intro style hmem hsuffix
  have hslanted : style ≠ .normal := by
    rintro rfl
    exact absurd hmem (by decide)
  exact h.not_styled style hslanted (List.isSuffixOf_iff_suffix.mp hsuffix)

theorem IsFamilyWord.weight?_eq_none {word : String} (h : IsFamilyWord word) :
    weight? word.toLower.toList = none := by
  apply Option.eq_none_iff_forall_ne_some.mpr
  intro weight hweight
  exact h.not_weight weight (weight?_eq_some_iff.mp hweight)

theorem takeWeight_of_weight {words : List (List Char)} {word : List Char} {weight : Nat}
    (h : weight? word = some weight) (last : List Char) :
    takeWeight (words ++ [last]) (some word) = (weight, words) := by
  simp only [takeWeight, Option.bind_some, h, List.dropLast_concat]

/-- A family has no weight to take off. -/
theorem takeWeight_of_family (words : List (List Char)) {last : String} (h : IsFamilyWord last) :
    takeWeight (words ++ [last.toList]) (lastWord? (words ++ [last.toList])) =
      (400, words ++ [last.toList]) := by
  simp only [takeWeight, lastWord?_concat, Option.bind_some, h.weight?_eq_none]

/-- Style and weight are taken off, and the family stays. -/
theorem take_of_ending {weight : Nat} {style : FontStyle} {ending : List String}
    (h : Ending weight style ending) (words : List (List Char)) {last : String}
    (hlast : IsFamilyWord last) :
    ∃ rest word,
      takeStyle (words ++ [last.toList] ++ ending.map String.toList) = (style, rest, word) ∧
        takeWeight rest word = (weight, words ++ [last.toList]) := by
  have hfamily := takeWeight_of_family words hlast
  cases h with
  | plain =>
    refine ⟨_, _, ?_, hfamily⟩
    rw [List.map_nil, List.append_nil, lastWord?_concat]
    exact takeStyle_of_other hlast.style?_eq_none hlast.fusedStyle?_eq_none
  | weight hweight =>
    rcases style?_of_mem_spellings _ hweight with ⟨hnormal, rfl⟩ | ⟨hstyle, hfused⟩
    · -- The word is taken for the normal style, and the family has no weight to take off.
      have hstyle := congrArg style? hnormal
      exact ⟨_, _, takeStyle_of_style (hstyle.trans (by decide)), hfamily⟩
    · exact ⟨_, _, takeStyle_of_other hstyle hfused,
        takeWeight_of_weight (weight?_of_mem_spellings _ hweight) _⟩
  | style hstyle => exact ⟨_, _, takeStyle_of_style hstyle.style?_eq, hfamily⟩
  | @apart word word' _ _ hweight hstyle =>
    refine ⟨_, _, ?_,
      takeWeight_of_weight (weight?_of_mem_spellings _ hweight) word.toList⟩
    rw [List.map_cons, List.map_singleton, List.append_cons, takeStyle_of_style hstyle.style?_eq,
      lastWord?_concat]
  | @fused word word' _ _ hweight hstyle =>
    have hlower : (word ++ word').toLower.toList = word.toLower.toList ++ style.name.toList := by
      rw [toList_toLower, String.toList_append, List.map_append, hstyle.toList_eq,
        ← toList_toLower]
    obtain ⟨hother, hfused⟩ := fusedStyle?_of_mem_spellings _ hweight style hstyle.mem
    rw [← hlower] at hother hfused
    exact ⟨_, _, takeStyle_of_fused hother hfused,
      takeWeight_of_weight (weight?_of_mem_spellings _ hweight) _⟩

/-- A family of several words is in quotes. -/
theorem familyOf_eq (family : List String) :
    familyOf (family.map String.toList) =
      if 2 ≤ family.length then "\"" ++ " ".intercalate family ++ "\""
      else " ".intercalate family := by
  have hjoined : String.ofList ([' '].intercalate (family.map String.toList)) =
      " ".intercalate family := by
    apply String.toList_injective
    rw [String.toList_ofList, String.toList_intercalate]
    rfl
  cases family with
  | nil => exact hjoined
  | cons word words =>
    cases words with
    | nil => exact hjoined
    | cons word' words =>
      rw [if_pos (by simp), ← hjoined]
      rfl

/-- A font name of a family with words for weight and style behind it is taken apart into these, with
any number of spaces between the words. The family has to end in a word that stands for nothing
else. -/
theorem parse_spaced {family ending : List String} {weight : Nat} {style : FontStyle} {name : String}
    (hne : family ≠ []) (hwords : ∀ word ∈ family, word ≠ "" ∧ ' ' ∉ word.toList)
    (hlast : ∀ last ∈ family.getLast?, IsFamilyWord last) (hending : Ending weight style ending)
    (hname : Text.Spaced ((family ++ ending).map String.toList) name.toList) :
    parse name =
      { style := style
        weight := weight
        family := if 2 ≤ family.length then "\"" ++ " ".intercalate family ++ "\""
          else " ".intercalate family } := by
  have hall : ∀ word ∈ (family ++ ending).map String.toList, word ≠ [] ∧ ' ' ∉ word := by
    intro letters hletters
    obtain ⟨word, hword, rfl⟩ := List.mem_map.mp hletters
    rcases List.mem_append.mp hword with hmem | hmem
    · obtain ⟨hnonempty, hspace⟩ := hwords word hmem
      exact ⟨mt String.toList_eq_nil_iff.mp hnonempty, hspace⟩
    · exact hending.words word hmem
  obtain ⟨words, last, rfl⟩ : ∃ words last, family = words ++ [last] :=
    ⟨_, _, (List.dropLast_concat_getLast hne).symm⟩
  obtain ⟨rest, word, hstyle, hweight⟩ :=
    take_of_ending hending (words.map String.toList) (hlast last List.getLast?_concat)
  have hfamily : (words ++ [last]).map String.toList = words.map String.toList ++ [last.toList] :=
    List.map_append
  rw [← familyOf_eq, hfamily]
  simp only [parse, hname.splitWords_eq hall, List.map_append, hfamily, hstyle, hweight]

/-- A name with more spaces than it needs, a weight and a style in one word, and no care for case. -/
theorem parse_spaced_semiBoldOblique :
    let family := ["Open", "Sans"]
    let ending := ["SEMI-Bold" ++ "OBlique"]
    let name := "  Open   Sans SEMI-BoldOBlique "
    Ending 600 .oblique ending ∧ IsFamilyWord "Sans" ∧
      Text.Spaced ((family ++ ending).map String.toList) name.toList ∧
      parse name = ⟨.oblique, 600, "\"Open Sans\""⟩ := by
  intro family ending name
  have hending : Ending 600 .oblique ending :=
    .fused (show (_, 600) ∈ spellings by decide +kernel) ⟨by decide, by decide +kernel⟩
  have hne : family ≠ [] := by decide
  have hwords : ∀ word ∈ family, word ≠ "" ∧ ' ' ∉ word.toList := by decide +kernel
  have hlast : IsFamilyWord "Sans" := by
    refine ⟨?_, by decide +kernel, ?_⟩
    · intro weight hweight
      have hsome := weight?_eq_some_iff.mpr hweight
      have hnone : weight? "Sans".toLower.toList = none := by decide +kernel
      rw [hnone] at hsome
      cases hsome
    · rintro (_ | _ | _) hslanted
      · exact absurd rfl hslanted
      all_goals decide +kernel
  have hname : Text.Spaced ((family ++ ending).map String.toList) name.toList := by
    have hspread : name.toList = ' ' :: ' ' :: ("Open".toList ++ ' ' :: ' ' :: ' ' ::
        ("Sans".toList ++ ' ' :: (("SEMI-Bold" ++ "OBlique").toList ++ [' ']))) := by
      decide +kernel
    have hspace : ∀ c : Char, ∀ text : List Char, c ∈ (' ' :: text).head? → c = ' ' :=
      fun c text h => (Option.some.inj h).symm
    rw [hspread]
    exact .space (.space (.word _ (fun c => hspace c _) (.space (.space (.space (.word _
      (fun c => hspace c _) (.space (.word _ (fun c => hspace c _) (.space .nil)))))))))
  refine ⟨hending, hlast, hname, ?_⟩
  have hends : ∀ last ∈ family.getLast?, IsFamilyWord last := by
    intro last heq
    cases heq
    exact hlast
  rw [parse_spaced hne hwords hends hending hname]
  decide +kernel

end FontDescriptor

end MapStyling
