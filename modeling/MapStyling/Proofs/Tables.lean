import Mathlib
import MapStyling.Color.Table
import MapStyling.Font
import MapStyling.Proofs.Text.Wrap

/-!
# Tables of answers

The tables of colors, of fonts and of wrapped labels may each be used by themselves. None of them can
be told from the computation by its answers, and none computes an answer twice (`tables_transparent`).

The invariant is `Memo.Holds`: a table holds the computed answers of the keys it was asked for, one for
each, and no others. So a key is answered without the computation exactly if it was asked for before.
The table of fonts is two tables with keys of their own, of which the one of descriptors is asked only
where the one of shorthands has no answer.

Numbers stand in keys as their bits. Every pattern of bits counts as a key here, so that the zeros and
the many NaNs are told apart, of which there is one among the doubles.
-/

namespace MapStyling

/-! ## Asking a table -/

namespace Memo

variable {κ α : Type} [DecidableEq κ] {memo : Memo κ α} {compute : κ → α} {keys : List κ} {key : κ}

/-- A table holds the computed answers of some keys, one for each, and no others. -/
structure Holds (memo : Memo κ α) (compute : κ → α) (keys : List κ) : Prop where
  get?_eq : ∀ key, memo.get? key = if key ∈ keys then some (compute key) else none
  length_eq : memo.length = keys.toFinset.card

namespace Holds

theorem nil (compute : κ → α) : Holds [] compute [] where
  get?_eq := fun _ => (if_neg List.not_mem_nil).symm
  length_eq := rfl

theorem agrees (h : memo.Holds compute keys) : memo.Agrees compute := by
  intro key answer hget
  rw [h.get?_eq] at hget
  split at hget
  · exact (Option.some.inj hget).symm
  · cases hget

/-- A key that was asked for before is none more. -/
theorem again (h : memo.Holds compute keys) (hkey : key ∈ keys) :
    memo.Holds compute (keys ++ [key]) where
  get?_eq := by
    intro other
    have hmem : other ∈ keys ++ [key] ↔ other ∈ keys := by
      rw [List.mem_append, List.mem_singleton, or_iff_left_iff_imp]
      rintro rfl
      exact hkey
    rw [h.get?_eq]
    simp only [hmem]
  length_eq := by
    rw [h.length_eq, List.toFinset_append, List.toFinset_cons, List.toFinset_nil,
      Finset.union_eq_left.mpr (by simpa using hkey)]

theorem cons (h : memo.Holds compute keys) (hkey : key ∉ keys) :
    Holds ((key, compute key) :: memo) compute (keys ++ [key]) where
  get?_eq := by
    intro other
    rw [get?, h.get?_eq]
    by_cases hother : key = other
    · subst hother
      rw [if_pos rfl, if_pos (List.mem_concat_self)]
    · have hmem : other ∈ keys ++ [key] ↔ other ∈ keys := by
        rw [List.mem_append, List.mem_singleton, or_iff_left (Ne.symm hother)]
      rw [if_neg hother]
      simp only [hmem]
  length_eq := by
    have hunion : (keys ++ [key]).toFinset = insert key keys.toFinset := by
      rw [List.toFinset_append, List.toFinset_cons, List.toFinset_nil, Finset.union_insert,
        Finset.union_empty]
    rw [hunion, Finset.card_insert_of_notMem (by simpa using hkey), ← h.length_eq, List.length_cons]

/-- A key that was asked for before is answered from the table, whatever the computation is now. -/
theorem fetch_of_mem (h : memo.Holds compute keys) (hkey : key ∈ keys) (compute' : κ → α) :
    memo.fetch key compute' = ⟨compute key, memo, false⟩ := by
  have hget := h.get?_eq key
  rw [if_pos hkey] at hget
  rw [fetch, hget]

/-- The answer to any other key is computed. -/
theorem fetch_of_not_mem (h : memo.Holds compute keys) (hkey : key ∉ keys) (compute' : κ → α) :
    memo.fetch key compute' = ⟨compute' key, (key, compute' key) :: memo, true⟩ := by
  have hget := h.get?_eq key
  rw [if_neg hkey] at hget
  rw [fetch, hget]

theorem computed_eq (h : memo.Holds compute keys) (key : κ) :
    (memo.fetch key compute).computed = decide (key ∉ keys) := by
  rw [fetch_computed, h.get?_eq]
  by_cases hkey : key ∈ keys <;> simp [hkey]

/-- Asking for a key keeps the invariant. -/
theorem fetch (h : memo.Holds compute keys) (key : κ) :
    (memo.fetch key compute).memo.Holds compute (keys ++ [key]) := by
  by_cases hkey : key ∈ keys
  · rw [h.fetch_of_mem hkey]
    exact h.again hkey
  · rw [h.fetch_of_not_mem hkey]
    exact h.cons hkey

end Holds

end Memo

/-! ## Colors -/

namespace ColorTable

/-- A call of a table of colors. -/
inductive Call where
  /-- Asks for the color of a text. -/
  | get (text : String)
  /-- Asks for the color of a text with an opacity. -/
  | getWithOpacity (text : String) (opacity : Float)

namespace Call

/-- The text that a call asks for. -/
def text : Call → String
  | .get text => text
  | .getWithOpacity text _ => text

/-- What a call makes of the color of its text. -/
def finish (color : Option Color) : Call → Option Color
  | .get _ => color
  | .getWithOpacity _ opacity => color.bind (·.withOpacity? opacity)

/-- The answer to a call without a table. -/
def answer (parse : ColorParser) (call : Call) : Option Color :=
  call.finish (parse call.text)

end Call

variable {parse : ColorParser}

/-- The answer to a call, and the table after it. -/
def serve (parse : ColorParser) (table : ColorTable) : Call → Option Color × ColorTable
  | .get text =>
    let found := table.get parse text
    (found.answer, found.memo)
  | .getWithOpacity text opacity => table.getWithOpacity parse text opacity

/-- Whether the parser is asked in a call. -/
def asks (parse : ColorParser) (table : ColorTable) (call : Call) : Bool :=
  (table.get parse call.text).computed

/-- The table after some calls. -/
def after (parse : ColorParser) (calls : List Call) : ColorTable :=
  calls.foldl (fun table call => (table.serve parse call).2) []

/-- Either call looks its text up in the same way. -/
theorem serve_eq (parse : ColorParser) (table : ColorTable) (call : Call) :
    table.serve parse call =
      (call.finish (table.get parse call.text).answer, (table.get parse call.text).memo) := by
  cases call <;> rfl

theorem holds_after (parse : ColorParser) (calls : List Call) :
    Memo.Holds (after parse calls) parse (calls.map Call.text) := by
  induction calls using List.reverseRecOn with
  | nil => exact .nil parse
  | append_singleton calls call ih =>
    rw [after, List.foldl_append, List.map_append]
    show Memo.Holds ((after parse calls).serve parse call).2 parse (_ ++ [call.text])
    rw [serve_eq]
    exact ih.fetch call.text

end ColorTable

/-! ## Fonts -/

theorem shorthandOfKey_bits (name : String) (size : Float) :
    shorthandOfKey (size.toBits, name) = fontCss name size := by
  simp only [shorthandOfKey, Float.ofBits_toBits]

namespace FontTable

variable {table : FontTable} {keys : List (UInt64 × String)} {key : UInt64 × String}

/-- A table of computed answers answers a key as the computation does, and stays one. -/
theorem cssOfKey_agrees (hdescriptors : Memo.Agrees table.descriptors FontDescriptor.parse)
    (hshorthands : Memo.Agrees table.shorthands shorthandOfKey) (key : UInt64 × String) :
    (table.cssOfKey key).1 = shorthandOfKey key ∧
      Memo.Agrees (table.cssOfKey key).2.descriptors FontDescriptor.parse ∧
      Memo.Agrees (table.cssOfKey key).2.shorthands shorthandOfKey := by
  rw [cssOfKey]
  cases hget : Memo.get? table.shorthands key with
  | some shorthand => exact ⟨hshorthands key shorthand hget, hdescriptors, hshorthands⟩
  | none =>
    dsimp only
    rw [Memo.fetch_answer hdescriptors]
    exact ⟨rfl, Memo.fetch_agrees hdescriptors key.2, Memo.agrees_cons hshorthands key⟩

/-- A table holds the shorthands of some keys, and the descriptors of their names. -/
structure Holds (table : FontTable) (keys : List (UInt64 × String)) : Prop where
  descriptors : Memo.Holds table.descriptors FontDescriptor.parse (keys.map Prod.snd)
  shorthands : Memo.Holds table.shorthands shorthandOfKey keys

theorem Holds.cssOfKey_of_mem (h : table.Holds keys) (hkey : key ∈ keys) :
    table.cssOfKey key = (shorthandOfKey key, table) := by
  have hget := h.shorthands.get?_eq key
  rw [if_pos hkey] at hget
  rw [cssOfKey, hget]

theorem Holds.cssOfKey_of_not_mem (h : table.Holds keys) (hkey : key ∉ keys) :
    table.cssOfKey key = (shorthandOfKey key,
      ⟨(table.descriptors.fetch key.2 FontDescriptor.parse).memo,
        (key, shorthandOfKey key) :: table.shorthands⟩) := by
  have hget := h.shorthands.get?_eq key
  rw [if_neg hkey] at hget
  rw [cssOfKey, hget]
  dsimp only
  rw [Memo.fetch_answer h.descriptors.agrees]
  rfl

theorem Holds.answer (h : table.Holds keys) (key : UInt64 × String) :
    (table.cssOfKey key).1 = shorthandOfKey key :=
  (cssOfKey_agrees h.descriptors.agrees h.shorthands.agrees key).1

theorem Holds.cssOfKey (h : table.Holds keys) (key : UInt64 × String) :
    (table.cssOfKey key).2.Holds (keys ++ [key]) := by
  by_cases hkey : key ∈ keys
  · -- The name of the key was asked for with it.
    rw [h.cssOfKey_of_mem hkey]
    refine ⟨?_, h.shorthands.again hkey⟩
    rw [List.map_append]
    exact h.descriptors.again (List.mem_map_of_mem hkey)
  · rw [h.cssOfKey_of_not_mem hkey]
    refine ⟨?_, h.shorthands.cons hkey⟩
    rw [List.map_append]
    exact h.descriptors.fetch key.2

/-- The table after some keys were asked for. -/
def after (keys : List (UInt64 × String)) : FontTable :=
  keys.foldl (fun table key => (table.cssOfKey key).2) empty

theorem holds_after (keys : List (UInt64 × String)) : (after keys).Holds keys := by
  induction keys using List.reverseRecOn with
  | nil => exact ⟨.nil _, .nil _⟩
  | append_singleton keys key ih =>
    rw [after, List.foldl_append]
    exact ih.cssOfKey key

end FontTable

/-! ## Wrapped labels -/

namespace Wrap.Table

/-- The table after the labels of some keys were wrapped. -/
def afterKeys (measure : Measurer) (keys : List Key) : Table :=
  keys.foldl (fun table key => (table.wrapKey measure key).table) []

theorem holds_afterKeys (measure : Measurer) (keys : List Key) :
    Memo.Holds (afterKeys measure keys) (ofKey measure) keys := by
  induction keys using List.reverseRecOn with
  | nil => exact .nil (ofKey measure)
  | append_singleton keys key ih =>
    rw [afterKeys, List.foldl_append]
    exact ih.fetch key

end Wrap.Table

/-! ## All of them -/

/-- The tables of colors, fonts and wrapped labels, after any calls and for any next one.
1. A color is that of its text, with the opacity if one is given. The table remembers what the parser
   made of each text that was asked for, be it a color or none, and of no other, with one entry for
   each text. The parser is asked exactly for a text that is new.
2. A shorthand is that of its font and size. There is one entry for each font and size that was asked
   for, and one for each font.
3. A wrapped label is what wrapping makes of it, with one entry for each key that was asked for. No
   width is measured if the key was asked for before, and else the widths that wrapping needs.

Where a key was asked for before, the call depends neither on the parser nor on the widths any more,
and it leaves the table as it is. -/
theorem tables_transparent (parse : ColorParser) (measure : Measurer) :
    (∀ (calls : List ColorTable.Call) (call : ColorTable.Call),
      let table := ColorTable.after parse calls
      let texts := calls.map ColorTable.Call.text
      (table.serve parse call).1 = call.answer parse ∧
        (∀ text, table.get? text = if text ∈ texts then some (parse text) else none) ∧
        table.length = texts.toFinset.card ∧
        table.asks parse call = decide (call.text ∉ texts) ∧
        (call.text ∈ texts → ∀ parse', table.serve parse' call = (call.answer parse, table))) ∧
    (∀ (keys : List (UInt64 × String)) (key : UInt64 × String),
      let table := FontTable.after keys
      (table.cssOfKey key).1 = fontCss key.2 (Float.ofBits key.1) ∧
        (∀ name size, (table.css name size).1 = fontCss name size) ∧
        table.shorthands.length = keys.toFinset.card ∧
        table.descriptors.length = (keys.map Prod.snd).toFinset.card ∧
        (key ∈ keys → (table.cssOfKey key).2 = table)) ∧
    ∀ (keys : List Wrap.Key) (key : Wrap.Key),
      let table := Wrap.Table.afterKeys measure keys
      let wrapped := Wrap.wrap measure key.text key.font (Float.ofBits key.ems)
      let found := table.wrapKey measure key
      found.text = wrapped ∧
        (∀ text font ems, (table.wrap measure text font ems).text =
          Wrap.wrap measure text font ems) ∧
        table.length = keys.toFinset.card ∧
        found.measured = (if key ∈ keys then [] else
          Wrap.measured measure key.text key.font (Float.ofBits key.ems)) ∧
        (key ∈ keys → ∀ measure', table.wrapKey measure' key = ⟨wrapped, table, []⟩) := by
  refine ⟨?_, ?_, ?_⟩
  · intro calls call table texts
    have holds := ColorTable.holds_after parse calls
    refine ⟨?_, holds.get?_eq, holds.length_eq, holds.computed_eq call.text, ?_⟩
    · rw [ColorTable.serve_eq]
      exact congrArg call.finish (Memo.fetch_answer holds.agrees call.text)
    · intro hseen parse'
      rw [ColorTable.serve_eq, ColorTable.get, holds.fetch_of_mem hseen]
      rfl
  · intro keys key table
    have holds := FontTable.holds_after keys
    refine ⟨holds.answer key, ?_, holds.shorthands.length_eq, holds.descriptors.length_eq, ?_⟩
    · intro name size
      rw [← shorthandOfKey_bits]
      exact holds.answer (size.toBits, name)
    · intro hseen
      rw [holds.cssOfKey_of_mem hseen]
  · intro keys key table wrapped found
    have holds := Wrap.Table.holds_afterKeys measure keys
    refine ⟨Memo.fetch_answer holds.agrees key, Wrap.Table.wrap_text holds.agrees,
      holds.length_eq, ?_, ?_⟩
    · show (if (table.fetch key (Wrap.ofKey measure)).computed then _ else []) = _
      rw [holds.computed_eq]
      by_cases hseen : key ∈ keys <;> simp [hseen]
    · intro hseen measure'
      rw [Wrap.Table.wrapKey, holds.fetch_of_mem hseen]
      rfl

/-- Two zeros and two patterns of NaNs are four sizes of a font. -/
example :
    let table := FontTable.after [(0, "Noto Sans"), (0x8000000000000000, "Noto Sans"),
      (0x7ff8000000000000, "Noto Sans"), (0x7ff8000000000001, "Noto Sans"), (0, "Noto Sans")]
    table.shorthands.length = 4 ∧ table.descriptors.length = 1 := by decide +kernel

end MapStyling
