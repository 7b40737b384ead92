import MapStyling.Proofs.Reads
import MapStyling.Proofs.Slices

/-!
# Names in templates

There is one way to take a template apart into texts, names and a rest behind them (`Template.Splits`),
and both the names and the text with the values in place are read off it
(`Template.substitute_splits`). So the two see the same names, and the text of a value is not looked
at again.

What stands between the first opening brace and the first closing one behind it is a name, even if it
holds opening braces of its own (`Template.substitute_reopened`). So the first of these braces is not
kept, and what stands behind the last of them is not looked up.
-/

namespace MapStyling.Template

variable {template before key tail : String} {parts : List (String × String)}

theorem display_eq_getD (attributes : Attributes) (key : String) :
    display attributes key = ((attributes key).map Value.text).getD "" := by
  unfold display
  cases attributes key <;> rfl

/-! ## The first name -/

/-- No opening brace of a text is closed. -/
def Unclosed (text : String) : Prop :=
  ∀ front back, text.toList = front ++ '\x7b' :: back → '\x7d' ∉ back

theorem unclosed_of_not_mem (h : '\x7b' ∉ tail.toList) : Unclosed tail := by
  intro front back htail
  exact absurd h (by simp [htail])

/-- Behind the first opening brace no brace opens that is closed, if that one is not. -/
theorem unclosed_of_first {before rest : List Char} (hbefore : '\x7b' ∉ before)
    (hrest : '\x7d' ∉ rest) (htail : tail.toList = before ++ '\x7b' :: rest) : Unclosed tail := by
  intro front back hback
  have hsame := htail.symm.trans hback
  rcases List.append_eq_append_iff.mp hsame with ⟨between, -, heq⟩ | ⟨between, rfl, heq⟩
  · cases between with
    | nil =>
      cases heq
      exact hrest
    | cons c between =>
      cases heq
      intro hclosing
      exact hrest (by simp [hclosing])
  · cases between with
    | nil =>
      cases heq
      exact hrest
    | cons c between =>
      cases heq
      exact absurd hbefore (by simp)

/-- The first name of a template comes before the pieces of what is behind it. -/
theorem pieces_closed (hbefore : '\x7b' ∉ before.toList) (hkey : '\x7d' ∉ key.toList)
    (after : String) :
    pieces (before ++ "\x7b" ++ key ++ "\x7d" ++ after) =
      ⟨(before.toList, key.toList) :: (pieces after).parts, (pieces after).tail⟩ := by
  rw [pieces, pieces, ← (cut_closed hbefore hkey after.toList).2]
  simp

/-- A text in which no opening brace is closed is all rest. -/
theorem pieces_unclosed (h : Unclosed tail) : pieces tail = ⟨[], tail.toList⟩ := by
  by_cases hopening : '\x7b' ∈ tail.toList
  · obtain ⟨front, back, htail, hfront⟩ := List.eq_append_cons_of_mem hopening
    rw [pieces, htail]
    exact (cut_unclosed hfront (h front back htail)).2
  · exact (cut_unopened hopening).2

theorem keys_closed (hbefore : '\x7b' ∉ before.toList) (hkey : '\x7d' ∉ key.toList)
    (after : String) :
    keys (before ++ "\x7b" ++ key ++ "\x7d" ++ after) = key :: keys after := by
  simp [keys, pieces_closed hbefore hkey]

theorem substitute_closed (hbefore : '\x7b' ∉ before.toList) (hkey : '\x7d' ∉ key.toList)
    (after : String) (attributes : Attributes) :
    substitute (before ++ "\x7b" ++ key ++ "\x7d" ++ after) attributes =
      before ++ display attributes key ++ substitute after attributes := by
  simp only [substitute, pieces_closed hbefore hkey]
  simp [String.append_assoc]

theorem substitute_unclosed (h : Unclosed tail) (attributes : Attributes) :
    substitute tail attributes = tail := by
  simp [substitute, pieces_unclosed h]

/-! ## Taking a template apart -/

/-- A template is made of some texts, each with a name in braces behind it, and a rest. In front of
the names no brace opens, in the names none closes, and in the rest none opens that is closed. -/
structure Splits (template : String) (parts : List (String × String)) (tail : String) : Prop where
  joined : template =
    String.join (parts.map fun (before, key) => before ++ "\x7b" ++ key ++ "\x7d") ++ tail
  before : ∀ part ∈ parts, '\x7b' ∉ part.1.toList
  keys : ∀ part ∈ parts, '\x7d' ∉ part.2.toList
  rest : Unclosed tail

theorem Splits.nil (h : Unclosed tail) : Splits tail [] tail where
  joined := by simp
  before := by simp
  keys := by simp
  rest := h

theorem Splits.cons {after : String} (hbefore : '\x7b' ∉ before.toList)
    (hkey : '\x7d' ∉ key.toList) (h : Splits after parts tail) :
    Splits (before ++ "\x7b" ++ key ++ "\x7d" ++ after) ((before, key) :: parts) tail where
  joined := by simp only [h.joined, List.map_cons, String.join_cons, String.append_assoc]
  before := List.forall_mem_cons.mpr ⟨hbefore, h.before⟩
  keys := List.forall_mem_cons.mpr ⟨hkey, h.keys⟩
  rest := h.rest

/-- The pieces of a template are the only way to take it apart. -/
theorem Splits.pieces_eq (h : Splits template parts tail) :
    pieces template = ⟨parts.map fun (before, key) => (before.toList, key.toList), tail.toList⟩ := by
  induction parts generalizing template with
  | nil =>
    obtain rfl : template = tail := by simpa using h.joined
    exact pieces_unclosed h.rest
  | cons part parts ih =>
    obtain ⟨before, key⟩ := part
    obtain ⟨hbefore, hbefores⟩ := List.forall_mem_cons.mp h.before
    obtain ⟨hkey, hkeys⟩ := List.forall_mem_cons.mp h.keys
    have hafter := ih ⟨rfl, hbefores, hkeys, h.rest⟩
    rw [h.joined, List.map_cons, String.join_cons, String.append_assoc,
      pieces_closed hbefore hkey, hafter]
    rfl

/-- So there is no other way. -/
theorem Splits.unique {parts' : List (String × String)} {tail' : String}
    (h : Splits template parts tail) (h' : Splits template parts' tail') :
    parts' = parts ∧ tail' = tail := by
  have hread : ∀ {parts tail}, Splits template parts tail →
      parts = (pieces template).parts.map (fun part =>
          (String.ofList part.1, String.ofList part.2)) ∧
        tail = String.ofList (pieces template).tail := by
    intro parts tail hsplits
    simp [hsplits.pieces_eq, Function.comp_def]
  obtain ⟨hparts, htail⟩ := hread h
  obtain ⟨hparts', htail'⟩ := hread h'
  exact ⟨hparts'.trans hparts.symm, htail'.trans htail.symm⟩

/-- Every template can be taken apart: the names are found one after another, each in what is behind
the one before. -/
theorem exists_splits (template : String) : ∃ parts tail, Splits template parts tail := by
  by_cases hopening : '\x7b' ∈ template.toList
  · obtain ⟨before, rest, htemplate, hbefore⟩ := List.eq_append_cons_of_mem hopening
    by_cases hclosing : '\x7d' ∈ rest
    · obtain ⟨key, after, rfl, hkey⟩ := List.eq_append_cons_of_mem hclosing
      have hshorter : after.length < template.length := by
        rw [← String.length_toList, htemplate]
        simp only [List.length_append, List.length_cons]
        omega
      obtain ⟨parts, tail, hafter⟩ := exists_splits (String.ofList after)
      have hjoined : template = String.ofList before ++ "\x7b" ++ String.ofList key ++ "\x7d" ++
          String.ofList after := by
        apply String.toList_inj.mp
        simp [htemplate]
      rw [hjoined]
      exact ⟨_, tail, hafter.cons (by simpa using hbefore) (by simpa using hkey)⟩
    · exact ⟨[], template, .nil (unclosed_of_first hbefore hclosing htemplate)⟩
  · exact ⟨[], template, .nil (unclosed_of_not_mem hopening)⟩
termination_by template.length

/-- A template without a name is all rest. -/
theorem keys_eq_nil_iff : keys template = [] ↔ Unclosed template := by
  constructor
  · intro hnone
    obtain ⟨parts, tail, hsplits⟩ := exists_splits template
    obtain rfl : parts = [] := by simpa [keys, hsplits.pieces_eq] using hnone
    obtain rfl : template = tail := by simpa using hsplits.joined
    exact hsplits.rest
  · intro h
    rw [keys, pieces_unclosed h, List.map_nil]

/-- The names of a template and the text with the values in place, in five parts.
1. A template is made of texts, each with a name in braces behind it, and a rest. No brace opens in
   front of a name, none closes in a name, and none opens in the rest that is closed. There is no
   other way to take it apart like this.
2. It comes from cutting the template again and again, at the first brace that opens and the first
   behind it that closes.
3. These are the names of the template, in their order.
4. For every feature the text is the same with values for names: how the attribute of the name reads,
   and nothing if there is none. In particular, braces in a value stay as they are.
5. So features that agree on the names get the same text. -/
theorem substitute_splits (template : String) :
    ∃ parts tail, Splits template parts tail ∧
      (∀ parts' tail', Splits template parts' tail' → parts' = parts ∧ tail' = tail) ∧
      pieces? template.toList =
        some ⟨parts.map fun (before, key) => (before.toList, key.toList), tail.toList⟩ ∧
      keys template = parts.map (·.2) ∧
      (∀ attributes : Attributes, substitute template attributes =
        String.join (parts.map fun (before, key) =>
          before ++ ((attributes key).map Value.text).getD "") ++ tail) ∧
      ∀ s t : Attributes, AgreeOn (keys template) s t →
        substitute template s = substitute template t := by
  obtain ⟨parts, tail, hsplits⟩ := exists_splits template
  refine ⟨parts, tail, hsplits, fun _ _ => hsplits.unique, ?_, ?_, ?_, ?_⟩
  · rw [pieces?_eq_some, ← hsplits.pieces_eq]
    rfl
  · simp [keys, hsplits.pieces_eq]
  · intro attributes
    simp [substitute, hsplits.pieces_eq, display_eq_getD, Function.comp_def]
  · exact fun s t h => substitute_congr h

/-! ## Opening braces before a name -/

/-- Where a brace opens again in front of the next one that closes, in five parts.
1. The name starts behind the first of these braces, with the second one in it.
2. The attribute of this name takes the place of all of it.
3. So the text in front of the second brace is kept, and the attribute of the name behind it looked
   up, only if the attribute of the longer name reads just like that.
4. The name behind the second brace is not the first name of the template.
5. A brace that opens is kept if none closes behind it, and only then is there no name. -/
theorem substitute_reopened {front middle key : String} (hfront : '\x7b' ∉ front.toList)
    (hmiddle : '\x7d' ∉ middle.toList) (hkey : '\x7d' ∉ key.toList) (rest : String)
    (attributes : Attributes) :
    let template := front ++ "\x7b" ++ middle ++ "\x7b" ++ key ++ "\x7d" ++ rest
    let name := middle ++ "\x7b" ++ key
    keys template = name :: keys rest ∧
      substitute template attributes =
        front ++ display attributes name ++ substitute rest attributes ∧
      (substitute template attributes =
          front ++ "\x7b" ++ middle ++ display attributes key ++ substitute rest attributes ↔
        display attributes name = "\x7b" ++ middle ++ display attributes key) ∧
      (keys template).head? ≠ some key ∧
      (keys (front ++ "\x7b" ++ rest) = [] ↔ '\x7d' ∉ rest.toList) ∧
      ('\x7d' ∉ rest.toList →
        substitute (front ++ "\x7b" ++ rest) attributes = front ++ "\x7b" ++ rest) := by
  intro template name
  have hname : '\x7d' ∉ name.toList := by simp [name, hmiddle, hkey]
  have htemplate : template = front ++ "\x7b" ++ name ++ "\x7d" ++ rest := by
    simp only [template, name, String.append_assoc]
  have hkeys : keys template = name :: keys rest := by
    rw [htemplate, keys_closed hfront hname]
  have hsubstitute : substitute template attributes =
      front ++ display attributes name ++ substitute rest attributes := by
    rw [htemplate, substitute_closed hfront hname]
  have hkept : '\x7d' ∉ rest.toList → Unclosed (front ++ "\x7b" ++ rest) := by
    intro hrest
    exact unclosed_of_first hfront hrest (by simp)
  refine ⟨hkeys, hsubstitute, ?_, ?_, ⟨?_, ?_⟩, ?_⟩
  · have hregroup : front ++ "\x7b" ++ middle ++ display attributes key ++
        substitute rest attributes =
          front ++ ("\x7b" ++ middle ++ display attributes key) ++ substitute rest attributes := by
      simp only [String.append_assoc]
    rw [hsubstitute, hregroup, String.append_left_inj, String.append_right_inj]
  · rw [hkeys, List.head?_cons]
    intro h
    have hlength := congrArg String.length (Option.some.inj h)
    simp [name] at hlength
  · intro hnone
    exact (keys_eq_nil_iff.mp hnone) front.toList rest.toList (by simp)
  · exact fun hrest => keys_eq_nil_iff.mpr (hkept hrest)
  · exact fun hrest => substitute_unclosed (hkept hrest) attributes

/-- A height between braces of which the first is not closed. -/
theorem substitute_reopened_height :
    let attributes := Attributes.ofPairs [("ele", .string "120")]
    '\x7b' ∉ "at ".toList ∧ '\x7d' ∉ "m: ".toList ∧ '\x7d' ∉ "ele".toList ∧
      keys ("at " ++ "\x7b" ++ "m: " ++ "\x7b" ++ "ele" ++ "\x7d" ++ "!") =
        ("m: " ++ "\x7b" ++ "ele") :: keys "!" ∧
      substitute ("at " ++ "\x7b" ++ "m: " ++ "\x7b" ++ "ele" ++ "\x7d" ++ "!") attributes =
        "at " ++ display attributes ("m: " ++ "\x7b" ++ "ele") ++ substitute "!" attributes := by
  intro attributes
  have hfront : '\x7b' ∉ "at ".toList := by decide
  have hmiddle : '\x7d' ∉ "m: ".toList := by decide
  have hkey : '\x7d' ∉ "ele".toList := by decide
  obtain ⟨hkeys, hsubstitute, -⟩ := substitute_reopened hfront hmiddle hkey "!" attributes
  exact ⟨hfront, hmiddle, hkey, hkeys, hsubstitute⟩

/-- The first brace and the text up to the second one are lost, and so is the height, although there
is an attribute of its name. -/
theorem substitute_reopened_lost :
    let attributes := Attributes.ofPairs [("ele", .string "120")]
    let template := "at " ++ "\x7b" ++ "m: " ++ "\x7b" ++ "ele" ++ "\x7d" ++ "!"
    ('\x7b' ∉ "at m: ele".toList ∧ '\x7d' ∉ "at m: ele".toList) ∧
      substitute template attributes = "at !" ∧
      "at " ++ "\x7b" ++ "m: " ++ display attributes "ele" ++ substitute "!" attributes =
        "at \x7bm: 120!" ∧
      substitute template attributes ≠
        "at " ++ "\x7b" ++ "m: " ++ display attributes "ele" ++ substitute "!" attributes ∧
      (keys template).head? ≠ some "ele" := by
  decide +kernel

end MapStyling.Template
