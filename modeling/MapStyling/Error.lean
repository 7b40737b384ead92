/-!
# What can go wrong

Only loading a style, or the metadata of its icons, can fail. A loaded style is resolved without
errors.
-/

namespace MapStyling

/-- The version of the style schema that is read. -/
def supportedVersion : Nat := 8

/-- What is wrong with a document that is JSON. -/
inductive DocumentFault where
  | notAnObject
  | missingVersion
  | versionNotAnInteger
  | layersNotAnArray
deriving DecidableEq, Repr

/-- Why a style is not loaded. -/
inductive StyleError where
  /-- The document is of another version of the schema. -/
  | unsupportedVersion (found : Nat)
  /-- The document has the wrong shape. -/
  | invalidDocument (fault : DocumentFault)
  /-- The text is not JSON, or a value in it is not what its place asks for. -/
  | malformed
deriving DecidableEq, Repr

/-- A fault in words. -/
def DocumentFault.reason : DocumentFault → String
  | .notAnObject => "document is not an object"
  | .missingVersion => "missing `version`"
  | .versionNotAnInteger => "`version` is not an integer"
  | .layersNotAnArray => "`layers` is not an array"

/-- An error in words. -/
def StyleError.message : StyleError → String
  | .unsupportedVersion found =>
    "style version " ++ toString supportedVersion ++ " required, found version " ++ toString found
  | .invalidDocument fault => "invalid style document: " ++ fault.reason
  | .malformed => "malformed style document"

/-- Whether an error was caused by another one, that of reading JSON. -/
def StyleError.hasCause : StyleError → Bool
  | .malformed => true
  | _ => false

end MapStyling
