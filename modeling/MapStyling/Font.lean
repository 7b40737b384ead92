import MapStyling.Text.Words
import MapStyling.Value
import MapStyling.Memo

/-!
# Fonts

A font name such as `Open Sans Bold Italic` ends in words for weight and style.
`FontDescriptor.parse` takes them off, and `FontDescriptor.css` writes the CSS shorthand.
`chooseFont` picks one name from a stack of names in order of preference.
-/

namespace MapStyling

/-- The style of a font. -/
inductive FontStyle where
  | normal
  | italic
  | oblique
deriving DecidableEq, Repr

/-- The name of a style. -/
def FontStyle.name : FontStyle → String
  | .normal => "normal"
  | .italic => "italic"
  | .oblique => "oblique"

/-- A font name taken apart. -/
structure FontDescriptor where
  style : FontStyle
  weight : Nat
  /-- The family, in quotes if it has several words. -/
  family : String
deriving DecidableEq, Repr

namespace FontDescriptor

/-- The words for weights. Those with a hyphen may be written without it. -/
def weightWords : List (String × Nat) :=
  [("thin", 100), ("hairline", 100), ("ultra-light", 100), ("extra-light", 100), ("light", 200),
    ("book", 300), ("regular", 400), ("normal", 400), ("plain", 400), ("roman", 400),
    ("standard", 400), ("medium", 500), ("semi-bold", 600), ("demi-bold", 600), ("bold", 700),
    ("heavy", 800), ("black", 800), ("extra-bold", 800), ("ultra-black", 900), ("extra-black", 900),
    ("ultra-bold", 900), ("heavy-black", 900), ("fat", 900), ("poster", 900)]

/-- The weight that a word in lower case stands for. -/
def weight? (word : List Char) : Option Nat :=
  (weightWords.find? fun (keyword, _) =>
    word = keyword.toList ∨ word = keyword.toList.filter (· ≠ '-')).map (·.2)

/-- The style that a word in lower case stands for. -/
def style? (word : List Char) : Option FontStyle :=
  [FontStyle.normal, .italic, .oblique].find? fun style => style.name.toList = word

/-- The style that ends a word in lower case, and the word without it. -/
def fusedStyle? (word : List Char) : Option (FontStyle × List Char) :=
  ([FontStyle.italic, .oblique].find? fun style => style.name.toList.isSuffixOf word).map
    fun style => (style, word.take (word.length - style.name.length))

/-- The last of some words, in lower case. -/
def lastWord? (words : List (List Char)) : Option (List Char) :=
  words.getLast?.map (·.map Char.toLower)

/-- Takes the style off some words: the style, the words left and the word that may name the
weight. A style at the end of a longer word leaves the word in its place. -/
def takeStyle (words : List (List Char)) :
    FontStyle × List (List Char) × Option (List Char) :=
  match lastWord? words with
  | none => (.normal, words, none)
  | some word =>
    match style? word with
    | some style => (style, words.dropLast, lastWord? words.dropLast)
    | none =>
      match fusedStyle? word with
      | some (style, stem) => (style, words, some stem)
      | none => (.normal, words, some word)

/-- Takes the weight off some words, of which `word` may name it. -/
def takeWeight (words : List (List Char)) (word : Option (List Char)) :
    Nat × List (List Char) :=
  match word.bind weight? with
  | some weight => (weight, words.dropLast)
  | none => (400, words)

/-- The family of some words. -/
def familyOf (words : List (List Char)) : String :=
  let joined := String.ofList ([' '].intercalate words)
  match words with
  | _ :: _ :: _ => "\"" ++ joined ++ "\""
  | _ => joined

/-- Takes a font name apart. -/
def parse (name : String) : FontDescriptor :=
  let (style, words, word) := takeStyle (Text.splitWords name.toList)
  let (weight, words) := takeWeight words word
  ⟨style, weight, familyOf words⟩

/-- The CSS shorthand of a font of some pixels. -/
def css (font : FontDescriptor) (size : Float) : String :=
  font.style.name ++ " " ++ toString font.weight ++ " " ++ Value.numberText size ++ "px " ++
    font.family

end FontDescriptor

/-- The CSS shorthand of a font name at some pixels. -/
def fontCss (name : String) (size : Float) : String :=
  (FontDescriptor.parse name).css size

/-- The shorthand of a key: the bits of the size, and the font name. -/
def shorthandOfKey (key : UInt64 × String) : String :=
  fontCss key.2 (Float.ofBits key.1)

/-- The fonts seen so far: their descriptors, and their shorthands by the exact bits of the size. -/
structure FontTable where
  descriptors : Memo String FontDescriptor
  shorthands : Memo (UInt64 × String) String

/-- A table without fonts. -/
def FontTable.empty : FontTable := ⟨[], []⟩

/-- The shorthand of a key, and the table after it. The bits of a key may be those of any NaN. -/
def FontTable.cssOfKey (table : FontTable) (key : UInt64 × String) : String × FontTable :=
  match table.shorthands.get? key with
  | some shorthand => (shorthand, table)
  | none =>
    let font := table.descriptors.fetch key.2 FontDescriptor.parse
    let shorthand := font.answer.css (Float.ofBits key.1)
    (shorthand, ⟨font.memo, (key, shorthand) :: table.shorthands⟩)

/-- The CSS shorthand of a font name, and the table after it. -/
def FontTable.css (table : FontTable) (name : String) (size : Float) : String × FontTable :=
  table.cssOfKey (size.toBits, name)

/-- The texts among some values. -/
def textsOf (values : List Value) : List String :=
  values.filterMap Value.string?

/-- Picks a font from a stack: the first that is available, else the first of all. What is no stack
stays as it is. -/
def chooseFont (available : Option (List String)) (stack : Value) : Value :=
  match stack with
  | .array fonts =>
    let names := textsOf fonts
    let found := available.bind fun available => names.find? fun name => available.contains name
    match found.or names.head? with
    | some name => .string name
    | none => .null
  | other => other

end MapStyling
