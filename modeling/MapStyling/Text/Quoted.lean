import MapStyling.Text.Hex
import MapStyling.Text.CaseTables
import MapStyling.Text.HiddenTable

/-!
# Quoted texts in messages

A text in a message stands in quotes. Quotes and backslashes in it are escaped, and a character that
does not show stands as its code point in hexadecimal digits.
-/

namespace MapStyling.Text

/-- A character of a quoted text. -/
def quotedChar (c : Char) : List Char :=
  match c with
  | '"' => ['\\', '"']
  | '\\' => ['\\', '\\']
  | '\n' => ['\\', 'n']
  | '\r' => ['\\', 'r']
  | '\t' => ['\\', 't']
  | '\x00' => ['\\', '0']
  | c =>
    if inRanges hiddenRanges c.toNat then
      ['\\', 'u', '\x7b'] ++ hexDigits 6 c.toNat ++ ['\x7d']
    else [c]

/-- A text in quotes. -/
def quoted (text : String) : String :=
  "\"" ++ String.ofList (text.toList.flatMap quotedChar) ++ "\""

end MapStyling.Text
