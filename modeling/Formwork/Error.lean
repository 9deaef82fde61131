import Formwork.Row.Problem

/-!
The ways in which an operation fails, each named by its cause. `Error.message` holds the wording.
-/
namespace Formwork

/-- The cause of a failure. -/
inductive Error where
  | blocked (problems : List Blocking)
  /-- A settings document that is no YAML. -/
  | settingsSyntax (path : String)
  /-- A settings document that is no mapping but a value of another kind. -/
  | settingsShape (path kind : String)
  /-- A known section of the settings that is no mapping. -/
  | sectionShape (name : String)
  /-- A description of an application that is no mapping. -/
  | descriptionShape (path : String)
  /-- Nodes that no layer can hold, because a cycle remains. -/
  | cyclic (nodes : List String)
  /-- An edge that ends at no node. -/
  | unknownNode (node : String)
  /-- A number that has no integer part because it is infinite. -/
  | infinite
  /-- A text or number that does not read as a whole number. -/
  | notInteger (detail : String)
  /-- A text that does not read as a number. -/
  | notDecimal (text : String)
  /-- An integer of more digits than are read or written. -/
  | overlong
  | noColumnHeight
  /-- A value of a kind that has no meaning in its place. -/
  | wrongKind (detail : String)
  /-- A value other than a mapping where a record should be. -/
  | notRecord
  /-- A data file that holds no list of rows. -/
  | notRows (path : String)
  | missingFile (path : String)
  /-- A folder where a file should be. -/
  | folderAt (path : String)
  /-- A file where a folder should be made. -/
  | fileAt (path : String)
  | throughFile (path : String)
  /-- Bytes that are no UTF-8. -/
  | badEncoding
  | badJson
  | badYaml
  deriving Repr, BEq

namespace Error

def message : Error → String
  | .blocked problems =>
    if problems.isEmpty then "Generation inputs are invalid"
    else String.intercalate "; " (problems.map Blocking.message)
  | .settingsSyntax path => "Invalid YAML in " ++ path
  | .settingsShape path kind => "Config file " ++ path ++ " must contain a mapping, got " ++ kind
  | .sectionShape name => "Config section '" ++ name ++ "' must be a mapping"
  | .descriptionShape path => path ++ ": expected a mapping"
  | .cyclic _ => "Cycle left after cycle breaking"
  | .unknownNode node => Text.quoted node
  | .infinite => "cannot convert float infinity to integer"
  | .notInteger detail => detail
  | .notDecimal text => "could not convert string to float: " ++ Text.quoted text
  | .overlong => "Exceeds the limit (4300 digits) for integer string conversion"
  | .noColumnHeight => "range() arg 3 must not be zero"
  | .wrongKind detail => detail
  | .notRecord => "a mapping is required"
  | .notRows path => path ++ ": expected a list of field rows"
  | .missingFile path => "No such file or directory: " ++ Text.quoted path
  | .folderAt path => "Is a directory: " ++ Text.quoted path
  | .fileAt path => "File exists: " ++ Text.quoted path
  | .throughFile path => "Not a directory: " ++ Text.quoted path
  | .badEncoding => "invalid start byte"
  | .badJson => "no JSON document"
  | .badYaml => "no YAML document"

/-- The single problems of a failure: the blocking ones if it has them, else its wording. -/
def problems : Error → List String
  | .blocked problems => problems.map Blocking.message
  | e => [e.message]

end Error

end Formwork
