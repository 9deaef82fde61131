import Formwork.Row.Basic
import Formwork.Text.Blank

/-!
Names. A row that has no name gets one from its label: the label in upper case, with one underscore
for every run of characters other than the letters A to Z and the digits, and none at either end,
after the mark of custom names. Tabs get ids from their names in the same spirit.
-/
namespace Formwork

/-- The characters of attribute names besides the underscore. -/
def isNameChar (c : Char) : Bool :=
  ('A' ≤ c && c ≤ 'Z') || ('0' ≤ c && c ≤ '9')

/-- The name that a label suggests, without a mark. -/
def labelWord (label : String) : String :=
  let marked := Text.markOthers isNameChar '_' (Text.upper label).toList
  String.ofList (Text.stripWhere (· == '_') (Text.joinRuns (· == '_') '_' marked))

/-- The name that a label suggests; empty when the label has no letter or digit for it. -/
def nameOfLabel (mark label : String) : String :=
  let word := labelWord label
  if word == "" then "" else mark ++ word

/-- Whether a text has a Chinese character. -/
def hasChinese (s : String) : Bool :=
  s.toList.any (fun c => '一' ≤ c && c ≤ '鿿')

/-- Whether a name begins with the mark of custom names, the case of letters ignored. -/
def isMarked (mark name : String) : Bool :=
  name != "" && (Text.upper mark).toList.isPrefixOf (Text.upper name).toList

def tabId (tab : String) : String :=
  "tab_" ++ String.ofList (Text.joinBlanks '_' (Text.lower tab).toList)

def subTabId (tab subTab : String) : String :=
  "subtab_" ++ String.ofList (Text.joinBlanks '_' (Text.lower (tab ++ " " ++ subTab)).toList)

namespace Row

/-- The row with a name, derived from the label if it has none. -/
def resolve (mark : String) (r : Row) : Row :=
  if r.fieldName.truthy then r
  else { r with fieldName := .text (nameOfLabel mark r.label.words) }

/-- What a header row stands behind: its relationship, else its object. -/
def qualifier (r : Row) : String :=
  (r.relationship.orElse r.objectName).words

/-- The data binding of a row. A header row from a related record is bound through it; tables carry
the relationship of their rows themselves. -/
def binding (r : Row) : String :=
  if r.area == .header && r.qualifier != "" then r.qualifier ++ "." ++ r.fieldName.words
  else r.fieldName.words

end Row

end Formwork
