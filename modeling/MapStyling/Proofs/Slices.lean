import Mathlib
import MapStyling.Font
import MapStyling.Template

/-!
# Slices of texts

A text may be cut at offsets in bytes, but not beyond its end and not inside a character
(`Text.slice?`). Templates are taken apart at the offsets of their braces, and a style is cut off the
end of a word at the offset where it starts. None of these cuts fails, and what they leave is what
`Template.pieces` and `FontDescriptor.fusedStyle?` give (`Template.pieces?_eq_some`,
`FontDescriptor.sliceStyle?_eq_some`).
-/

namespace MapStyling

/-! ## Offsets -/

namespace Text

/-- A text cut in two at an offset; none if that is beyond its end or inside a character. -/
def cutAt? : List Char → Nat → Option (List Char × List Char)
  | text, 0 => some ([], text)
  | [], _ + 1 => none
  | c :: text, n + 1 =>
    if c.utf8Size ≤ n + 1 then
      (cutAt? text (n + 1 - c.utf8Size)).map fun (front, back) => (c :: front, back)
    else none

/-- The part of a text from one offset to another; none unless there are both, in this order. -/
def slice? (text : List Char) (start stop : Nat) : Option (List Char) := do
  let (front, _) ← cutAt? text stop
  let (_, part) ← cutAt? front start
  some part

/-- The offset of a character where it is first in a text. -/
def offset? (c : Char) : List Char → Option Nat
  | [] => none
  | d :: text => if d = c then some 0 else (offset? c text).map (d.utf8Size + ·)

theorem cutAt?_append (front back : List Char) :
    cutAt? (front ++ back) (String.utf8Len front) = some (front, back) := by
  induction front with
  | nil => cases back <;> rfl
  | cons c front ih =>
    obtain ⟨n, hn⟩ : ∃ n, String.utf8Len (c :: front) = n + 1 :=
      Nat.exists_eq_add_one.mpr (Nat.add_pos_right _ c.utf8Size_pos)
    have hsize : n + 1 = String.utf8Len front + c.utf8Size := hn.symm
    have hle : c.utf8Size ≤ n + 1 := by omega
    rw [hn, List.cons_append, cutAt?, if_pos hle, hsize, Nat.add_sub_cancel, ih]
    rfl

/-- A part of a text lies between the offsets where it starts and ends. -/
theorem slice?_eq_some {text : List Char} {start stop : Nat} (before part after : List Char)
    (htext : text = before ++ (part ++ after)) (hstart : start = String.utf8Len before)
    (hstop : stop = start + String.utf8Len part) : slice? text start stop = some part := by
  have hfront := cutAt?_append (before ++ part) after
  rw [List.append_assoc, ← htext, String.utf8Len_append, ← hstart, ← hstop] at hfront
  have hpart := cutAt?_append before part
  rw [← hstart] at hpart
  simp only [slice?, hfront, hpart, Option.bind_eq_bind, Option.bind_some]

theorem offset?_eq_none {c : Char} {text : List Char} (h : c ∉ text) : offset? c text = none := by
  induction text with
  | nil => rfl
  | cons d text ih =>
    rw [offset?, if_neg (List.ne_of_not_mem_cons h).symm, ih (List.not_mem_of_not_mem_cons h)]
    rfl

/-- A character is found behind a text without it. -/
theorem offset?_append {c : Char} {before : List Char} (h : c ∉ before) (after : List Char) :
    offset? c (before ++ c :: after) = some (String.utf8Len before) := by
  induction before with
  | nil => exact if_pos rfl
  | cons d before ih =>
    rw [List.cons_append, offset?, if_neg (List.ne_of_not_mem_cons h).symm,
      ih (List.not_mem_of_not_mem_cons h), Option.map_some, String.utf8Len_cons, Nat.add_comm]

end Text

/-! ## Templates -/

namespace Template

/-- The first name in a template, cut out at its braces, with the text before it and the text behind
it; nothing if there is no name, and none if a cut fails. -/
def firstName? (template : List Char) : Option (Option (List Char × List Char × List Char)) :=
  match Text.offset? '\x7b' template with
  | none => some none
  | some start => do
    let rest ← Text.slice? template start (String.utf8Len template)
    match Text.offset? '\x7d' rest with
    | none => some none
    | some n =>
      let before ← Text.slice? template 0 start
      let key ← Text.slice? template (start + 1) (start + n)
      let after ← Text.slice? template (start + n + 1) (String.utf8Len template)
      some (some (before, key, after))

/-- The pieces of a template, cut at its braces name by name. The text behind a name is shorter than
the one that the name is in, so there is an end to it. -/
def pieces? (template : List Char) : Option Pieces :=
  match firstName? template with
  | none => none
  | some none => some ⟨[], template⟩
  | some (some (before, key, after)) =>
    if after.length < template.length then
      (pieces? after).map fun rest => ⟨(before, key) :: rest.parts, rest.tail⟩
    else none
termination_by template.length

/-! What is found at the braces of a template is what `outside` and `inside` find on their way
through its characters. -/

variable {before key : List Char}

theorem inside_eq_none {text : List Char} (h : '\x7d' ∉ text) : inside text = none := by
  induction text with
  | nil => rw [inside]
  | cons c text ih =>
    rw [inside, if_neg (List.ne_of_not_mem_cons h).symm, ih (List.not_mem_of_not_mem_cons h)]
    rfl

theorem inside_append (h : '\x7d' ∉ key) (after : List Char) :
    inside (key ++ '\x7d' :: after) = some (key, outside after) := by
  induction key with
  | nil => rw [List.nil_append, inside, if_pos rfl]
  | cons c key ih =>
    rw [List.cons_append, inside, if_neg (List.ne_of_not_mem_cons h).symm,
      ih (List.not_mem_of_not_mem_cons h)]
    rfl

/-- A text without an opening brace stands in front of the first piece. -/
theorem outside_append (h : '\x7b' ∉ before) (rest : List Char) :
    outside (before ++ rest) = before.foldr Pieces.prepend (outside rest) := by
  induction before with
  | nil => rfl
  | cons c before ih =>
    rw [List.cons_append, outside, if_neg (List.ne_of_not_mem_cons h).symm,
      ih (List.not_mem_of_not_mem_cons h), List.foldr_cons]

theorem foldr_prepend_nil (before tail : List Char) :
    before.foldr Pieces.prepend ⟨[], tail⟩ = ⟨[], before ++ tail⟩ := by
  induction before with
  | nil => rfl
  | cons c before ih => rw [List.foldr_cons, ih]; rfl

theorem foldr_prepend_cons (before front key : List Char) (parts : List (List Char × List Char))
    (tail : List Char) :
    before.foldr Pieces.prepend ⟨(front, key) :: parts, tail⟩ =
      ⟨(before ++ front, key) :: parts, tail⟩ := by
  induction before with
  | nil => rfl
  | cons c before ih => rw [List.foldr_cons, ih]; rfl

/-- A template without an opening brace is its only piece. -/
theorem cut_unopened {template : List Char} (h : '\x7b' ∉ template) :
    firstName? template = some none ∧ outside template = ⟨[], template⟩ := by
  have houtside := outside_append h []
  rw [List.append_nil, outside, foldr_prepend_nil, List.append_nil] at houtside
  rw [firstName?, Text.offset?_eq_none h]
  exact ⟨rfl, houtside⟩

/-- So is one in which the first brace that opens is not closed. -/
theorem cut_unclosed (hbefore : '\x7b' ∉ before) {rest : List Char} (hrest : '\x7d' ∉ rest) :
    firstName? (before ++ '\x7b' :: rest) = some none ∧
      outside (before ++ '\x7b' :: rest) = ⟨[], before ++ '\x7b' :: rest⟩ := by
  have hclosing : Text.offset? '\x7d' ('\x7b' :: rest) = none :=
    Text.offset?_eq_none (List.not_mem_cons_of_ne_of_not_mem (by decide) hrest)
  have hslice := Text.slice?_eq_some before ('\x7b' :: rest) [] (by rw [List.append_nil]) rfl
    (String.utf8Len_append ..)
  constructor
  · simp only [firstName?, Text.offset?_append hbefore, hslice, hclosing, Option.bind_eq_bind,
      Option.bind_some]
  · rw [outside_append hbefore, outside, if_pos rfl, inside_eq_none hrest, foldr_prepend_nil]

/-- Of other templates, the first name is that of the first piece, and what is behind it makes up
the other pieces. -/
theorem cut_closed (hbefore : '\x7b' ∉ before) (hkey : '\x7d' ∉ key) (after : List Char) :
    firstName? (before ++ '\x7b' :: (key ++ '\x7d' :: after)) = some (some (before, key, after)) ∧
      outside (before ++ '\x7b' :: (key ++ '\x7d' :: after)) =
        ⟨(before, key) :: (outside after).parts, (outside after).tail⟩ := by
  have hnot : '\x7d' ∉ '\x7b' :: key := List.not_mem_cons_of_ne_of_not_mem (by decide) hkey
  have hopening : Char.utf8Size '\x7b' = 1 := rfl
  have hclosing : Char.utf8Size '\x7d' = 1 := rfl
  constructor
  · let template := before ++ '\x7b' :: (key ++ '\x7d' :: after)
    let start := String.utf8Len before
    let n := String.utf8Len ('\x7b' :: key)
    have hrest : Text.slice? template start (String.utf8Len template) =
        some ('\x7b' :: key ++ '\x7d' :: after) :=
      Text.slice?_eq_some before _ [] (by rw [List.append_nil]; rfl) rfl (String.utf8Len_append ..)
    have hfirst : Text.slice? template 0 start = some before :=
      Text.slice?_eq_some [] before _ rfl rfl (Nat.zero_add _).symm
    have hsecond : Text.slice? template (start + 1) (start + n) = some key := by
      refine Text.slice?_eq_some (before ++ ['\x7b']) key ('\x7d' :: after) ?_ ?_ ?_
      · simp only [template, List.append_assoc, List.cons_append, List.nil_append]
      · rw [String.utf8Len_append]
        rfl
      · simp only [n, String.utf8Len_cons, hopening]
        omega
    have hthird : Text.slice? template (start + n + 1) (String.utf8Len template) = some after := by
      refine Text.slice?_eq_some (before ++ '\x7b' :: (key ++ ['\x7d'])) after [] ?_ ?_ ?_
      · simp only [template, List.append_assoc, List.cons_append, List.nil_append, List.append_nil]
      · simp only [start, n, String.utf8Len_append, String.utf8Len_cons, String.utf8Len_nil, hclosing]
        omega
      · simp only [template, start, n, String.utf8Len_append, String.utf8Len_cons, hclosing]
        omega
    have hstart : Text.offset? '\x7b' template = some start := Text.offset?_append hbefore _
    have hn : Text.offset? '\x7d' ('\x7b' :: key ++ '\x7d' :: after) = some n :=
      Text.offset?_append hnot after
    show firstName? template = some (some (before, key, after))
    simp only [firstName?, hstart, hrest, hn, hfirst, hsecond, hthird, Option.bind_eq_bind,
      Option.bind_some]
  · rw [outside_append hbefore, outside, if_pos rfl, inside_append hkey, foldr_prepend_cons,
      List.append_nil]

/-- A template is cut into its pieces. -/
theorem pieces?_eq_some (template : List Char) : pieces? template = some (outside template) := by
  rw [pieces?]
  by_cases hopening : '\x7b' ∈ template
  · obtain ⟨before, rest, htemplate, hbefore⟩ := List.eq_append_cons_of_mem hopening
    by_cases hclosing : '\x7d' ∈ rest
    · obtain ⟨key, after, hrest, hkey⟩ := List.eq_append_cons_of_mem hclosing
      rw [hrest] at htemplate
      have hshorter : after.length < template.length := by
        rw [htemplate]
        simp only [List.length_append, List.length_cons]
        omega
      obtain ⟨hfirst, houtside⟩ := cut_closed hbefore hkey after
      rw [← htemplate] at hfirst houtside
      rw [hfirst, houtside]
      dsimp only
      rw [if_pos hshorter, pieces?_eq_some after, Option.map_some]
    · obtain ⟨hfirst, houtside⟩ := cut_unclosed hbefore hclosing
      rw [← htemplate] at hfirst houtside
      rw [hfirst, houtside]
  · obtain ⟨hfirst, houtside⟩ := cut_unopened hopening
    rw [hfirst, houtside]
termination_by template.length

end Template

/-! ## Fonts -/

namespace FontDescriptor

/-- The style that ends a word in lower case, and the word with the style cut off; nothing if it ends
in no style, and none if the cut fails. -/
def sliceStyle? (word : List Char) : Option (Option (FontStyle × List Char)) :=
  match [FontStyle.italic, .oblique].find? fun style => style.name.toList.isSuffixOf word with
  | none => some none
  | some style =>
    let size := String.utf8Len style.name.toList
    if size ≤ String.utf8Len word then
      (Text.slice? word 0 (String.utf8Len word - size)).map fun stem => some (style, stem)
    else none

/-- A style is cut off a word that ends in it. -/
theorem sliceStyle?_eq_some (word : List Char) : sliceStyle? word = some (fusedStyle? word) := by
  unfold sliceStyle? fusedStyle?
  cases hstyle : [FontStyle.italic, .oblique].find? fun style =>
      style.name.toList.isSuffixOf word with
  | none => rfl
  | some style =>
    have hsuffix := List.find?_some hstyle
    obtain ⟨stem, rfl⟩ := List.isSuffixOf_iff_suffix.mp hsuffix
    have hslice : Text.slice? (stem ++ style.name.toList) 0 (String.utf8Len stem) = some stem :=
      Text.slice?_eq_some [] stem _ rfl rfl (Nat.zero_add _).symm
    have hlength : (stem ++ style.name.toList).length - style.name.length = stem.length := by
      rw [List.length_append, String.length_toList, Nat.add_sub_cancel]
    simp only [String.utf8Len_append, Nat.le_add_left, if_true, Nat.add_sub_cancel, hslice, hlength,
      List.take_left, Option.map_some]

/-- Whether the style can be cut off the last word of a font name, if it ends in one. -/
def isSliceable (name : String) : Bool :=
  (lastWord? (Text.splitWords name.toList)).all fun word => (sliceStyle? word).isSome

theorem isSliceable_eq_true (name : String) : isSliceable name = true := by
  unfold isSliceable
  cases lastWord? (Text.splitWords name.toList) with
  | none => rfl
  | some word => rw [Option.all_some, sliceStyle?_eq_some, Option.isSome_some]

end FontDescriptor

end MapStyling
