import MapStyling.Text.Words
import MapStyling.Memo

/-!
# Lines of a label

A label is broken into lines between words (`Wrap.lines`): a word goes onto the current line if the
line with it is not too wide, else it starts the next one, so a single word may be wider than the
limit. The limit is a number of ems, and one em is the width of `M`. Wrapped texts are remembered
(`Wrap.Table`) under the exact bits of the limit.
-/

namespace MapStyling

/-- The width of a text in a font, given as a CSS shorthand. -/
abbrev Measurer := String → String → Float

namespace Wrap

/-- The lines of the rest of a label, of which the first starts with the given line. -/
def linesFrom (tooWide : String → Bool) (line : String) : List String → List String
  | [] => [line]
  | word :: words =>
    if tooWide (line ++ " " ++ word) then line :: linesFrom tooWide word words
    else linesFrom tooWide (line ++ " " ++ word) words

/-- The lines of a label of the given words. -/
def lines (tooWide : String → Bool) : List String → List String
  | [] => []
  | word :: words => linesFrom tooWide word words

/-- The texts whose width is asked for the rest of a label. -/
def queriesFrom (tooWide : String → Bool) (line : String) : List String → List String
  | [] => []
  | word :: words =>
    (line ++ " " ++ word) ::
      if tooWide (line ++ " " ++ word) then queriesFrom tooWide word words
      else queriesFrom tooWide (line ++ " " ++ word) words

/-- The texts whose width is asked for a label of the given words, after the em. -/
def queries (tooWide : String → Bool) : List String → List String
  | [] => []
  | word :: words => queriesFrom tooWide word words

/-- What a label is wrapped by. -/
structure Key where
  text : String
  font : String
  /-- The bits of the limit in ems. -/
  ems : UInt64
deriving DecidableEq

/-- The key of a label. -/
def key (text font : String) (ems : Float) : Key :=
  ⟨text, font, ems.toBits⟩

/-- Whether a line is wider than the limit. -/
def tooWide (measure : Measurer) (font : String) (ems : Float) (line : String) : Bool :=
  measure font "M" * ems < measure font line

/-- A label with line breaks. -/
def wrap (measure : Measurer) (text font : String) (ems : Float) : String :=
  "\n".intercalate (lines (tooWide measure font ems) (Text.words text))

/-- The texts that are measured to wrap a label, in order. -/
def measured (measure : Measurer) (text font : String) (ems : Float) : List String :=
  "M" :: queries (tooWide measure font ems) (Text.words text)

/-- The wrapped label of a key. -/
def ofKey (measure : Measurer) (key : Key) : String :=
  wrap measure key.text key.font (Float.ofBits key.ems)

/-- The labels wrapped so far. -/
abbrev Table := Memo Key String

/-- What wrapping by a table leads to. -/
structure Wrapped where
  /-- The label with line breaks. -/
  text : String
  /-- The table after it. -/
  table : Table
  /-- The texts that were measured. -/
  measured : List String

/-- Wraps the label of a key, or answers from the table. The bits of a key may be those of any NaN. -/
def Table.wrapKey (measure : Measurer) (table : Table) (key : Key) : Wrapped :=
  let found := table.fetch key (ofKey measure)
  ⟨found.answer, found.memo,
    if found.computed then Wrap.measured measure key.text key.font (Float.ofBits key.ems) else []⟩

/-- Wraps a label, or answers from the table. -/
def Table.wrap (measure : Measurer) (table : Table) (text font : String) (ems : Float) : Wrapped :=
  table.wrapKey measure (key text font ems)

end Wrap

end MapStyling
