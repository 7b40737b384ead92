import MapStyling.Layer
import MapStyling.Error
import MapStyling.Json.Parser

/-!
# Style documents

A style document has a version and a list of layers. Its version is looked at before its layers, so a
document of another schema is refused for its version and not for its shape.
-/

namespace MapStyling

/-- A style document. -/
structure Document where
  version : Nat
  name : Option String := none
  sprite : Option String := none
  layers : List Layer := []

/-- Which layers of a document are wanted. -/
inductive LayerSelection where
  | all
  /-- Those that draw from a source. -/
  | source (name : String)
  /-- Those with one of some ids. -/
  | ids (names : List String)

/-- Whether a layer is wanted. -/
def LayerSelection.contains (selection : LayerSelection) (layer : Layer) : Bool :=
  match selection with
  | .all => true
  | .source name => layer.source == some name
  | .ids names => names.contains layer.id

namespace Document

/-- Refuses a document of another version. -/
def checkVersion (found : Nat) : Except StyleError Unit :=
  if found = supportedVersion then .ok () else .error (.unsupportedVersion found)

/-- The version of a document's members. -/
def versionOf (members : Keyed Json) : Except StyleError Nat :=
  match members.get? "version" with
  | none => .error (.invalidDocument .missingVersion)
  | some json =>
    match json.nat? with
    | none => .error (.invalidDocument .versionNotAnInteger)
    | some version => .ok version

/-- The JSON values of a document's layers; none are the same as an empty list. -/
def layerItems (members : Keyed Json) : Except StyleError (List Json) :=
  match members.get? "layers" with
  | none => .ok []
  | some (.array items) => .ok items
  | some _ => .error (.invalidDocument .layersNotAnArray)

/-- Reads what a document holds besides its version. -/
def decode? (version : Nat) (members : Keyed Json) (items : List Json) : Option Document := do
  let name ← Layer.optional? Json.string? (members.get? "name")
  let sprite ← Layer.optional? Json.string? (members.get? "sprite")
  let layers ← items.mapM Layer.ofJson?
  some { version, name, sprite, layers }

/-- Reads a document. -/
def ofJson (json : Json) : Except StyleError Document :=
  match json with
  | .object members => do
    let version ← versionOf members
    checkVersion version
    let items ← layerItems members
    match decode? version members items with
    | some document => .ok document
    | none => .error .malformed
  | _ => .error (.invalidDocument .notAnObject)

/-- Reads a document from its text. -/
def parse (text : String) : Except StyleError Document :=
  match Json.parse? text with
  | some json => ofJson json
  | none => .error .malformed

/-- The first layer with an id. -/
def layer? (document : Document) (id : String) : Option Layer :=
  document.layers.find? fun layer => layer.id = id

end Document

end MapStyling
