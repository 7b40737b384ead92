import MapStyling.Color
import MapStyling.Memo

/-!
# Colors by their texts

A table of the colors that texts were resolved to, failures included, so that no text is resolved
twice. The opacity is applied afterwards and is no part of the key.
-/

namespace MapStyling

/-- The colors resolved so far. -/
abbrev ColorTable := Memo String (Option Color)

namespace ColorTable

/-- The color of a text; `computed` tells whether the parser was asked. -/
def get (parse : ColorParser) (table : ColorTable) (text : String) :
    Memo.Fetched String (Option Color) :=
  table.fetch text parse

/-- The color of a text composited with an opacity, and the table after it. -/
def getWithOpacity (parse : ColorParser) (table : ColorTable) (text : String) (opacity : Float) :
    Option Color × ColorTable :=
  let found := table.get parse text
  (found.answer.bind (·.withOpacity? opacity), found.memo)

end ColorTable

end MapStyling
