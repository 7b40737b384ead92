import MapStyling.Text.Quoted
import MapStyling.Decimal.Text

/-!
# Diagnostics

What is reported while a style is compiled and features are resolved. Nothing that is reported is an
error: it is left out, or it never matches.
-/

namespace MapStyling

/-- How much a report matters. -/
inductive Level where
  | warning
  | debug
  | trace
deriving DecidableEq, Repr

/-- Something to report. -/
inductive Event where
  /-- A layer refers to one that is not there. -/
  | danglingReference (layer reference : String)
  /-- A layer's filter has an operator that is not known. -/
  | unknownOperator (layer operator : String)
  /-- A document was compiled. -/
  | compiled (kept layers attributes : Nat)
  /-- A text is no color. -/
  | unparseableColor (text : String)
  /-- Instructions were computed anew. -/
  | recomputed (zoom : Float) (instructions revision : Nat)

namespace Event

/-- How much an event matters. -/
def level : Event → Level
  | .danglingReference .. | .unknownOperator .. | .unparseableColor .. => .warning
  | .compiled .. => .debug
  | .recomputed .. => .trace

/-- An event in words. -/
def message : Event → String
  | .danglingReference layer reference =>
    "layer " ++ Text.quoted layer ++ " refers to missing layer " ++ Text.quoted reference ++
      "; skipped"
  | .unknownOperator layer operator =>
    "layer " ++ Text.quoted layer ++ ": unknown filter operator " ++ Text.quoted operator ++
      " never matches"
  | .compiled kept layers attributes =>
    "compiled " ++ toString kept ++ " of " ++ toString layers ++ " layers; " ++
      toString attributes ++ " style-relevant attributes"
  | .unparseableColor text => "unparseable color " ++ Text.quoted text
  | .recomputed zoom instructions revision =>
    "style cache miss at zoom " ++ Decimal.plain.write zoom ++ ": " ++ toString instructions ++
      " instructions (revision " ++ toString revision ++ ")"

end Event

end MapStyling
