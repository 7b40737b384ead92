import MapStyling.Text.CaseTables

/-!
# Texts in upper and lower case

Every character is mapped by itself, with one exception: a capital sigma at the end of a word has a
lower case of its own.
-/

namespace MapStyling.Text

/-- The mapping of a character by tables of runs and of expansions. -/
def mapCase (runs : List CaseRun) (expansions : List (Nat × List Nat)) (c : Char) : List Char :=
  match expansions.find? fun e => e.1 == c.toNat with
  | some (_, ns) => ns.map Char.ofNat
  | none =>
    match runs.find? fun run => run.contains c.toNat with
    | some run => [Char.ofNat (c.toNat + run.shift).toNat]
    | none => [c]

/-- The upper case of a character. -/
def upperChar (c : Char) : List Char :=
  mapCase upperRuns upperExpansions c

/-- The lower case of a character away from its context. -/
def lowerChar (c : Char) : List Char :=
  mapCase lowerRuns lowerExpansions c

/-- Whether a text starts with a letter that has a case, after characters that do not count. -/
def startsCased (cs : List Char) : Bool :=
  match cs.dropWhile fun c => inRanges caseIgnorableRanges c.toNat with
  | [] => false
  | c :: _ => inRanges casedRanges c.toNat

/-- The lower case of the rest of a text; `before` is what comes before it, last character first. -/
def lowerFrom (before : List Char) : List Char → List Char
  | [] => []
  | c :: cs =>
    let mapped :=
      if c = 'Σ' then (if startsCased before && !startsCased cs then ['ς'] else ['σ'])
      else lowerChar c
    mapped ++ lowerFrom (c :: before) cs

/-- A text in upper case. -/
def upper (text : String) : String :=
  String.ofList (text.toList.flatMap upperChar)

/-- A text in lower case. -/
def lower (text : String) : String :=
  String.ofList (lowerFrom [] text.toList)

/-- Applies the transformation of a label's text; any other than `uppercase` and `lowercase` leaves
the text as it is. -/
def transform (name : Option String) (text : String) : String :=
  match name with
  | some "uppercase" => upper text
  | some "lowercase" => lower text
  | _ => text

end MapStyling.Text
