import Formwork.Folder
import Formwork.Json.Reader
import Formwork.Row.Worksheet
import Formwork.Table
import Formwork.Text.Case
import Formwork.Yaml.Reader

/-!
Rows from files. The ending of a file's name tells how it is read: as a table, as JSON, or else as
YAML. A document is a list of rows, or a mapping that holds one under `fields`. Entries that are no
mappings are passed over.
-/
namespace Formwork.Row

/-- The mark that may stand at the start of a text. -/
def byteOrderMark : Char := Char.ofNat 0xfeff

/-- The characters of a text without the mark at its start. -/
def unmarked : List Char → List Char
  | c :: rest => if c == byteOrderMark then rest else c :: rest
  | [] => []

/-- The list of rows that a document holds. -/
def entriesOf (path : String) (document : Value) : Except Error (List Value) :=
  let found := match document with
    | .map entries => (Value.lookup? "fields" entries).getD (.list [])
    | v => v
  match found with
  | .list items => .ok items
  | _ => .error (.notRows path)

/-- The document of a JSON text, which must not begin with a mark. -/
def jsonDocument (text : String) : Except Error Value :=
  match Json.read? text with
  | some v => .ok v
  | none => .error .badJson

/-- The document of a YAML text; what does not count as true holds no rows. -/
def yamlDocument (text : String) : Except Error Value :=
  match Yaml.read? text with
  | some v => .ok (if v.truthy then v else .list [])
  | none => .error .badYaml

def readEntries (f : Folder) (p : Path) : Except Error (List Value) := do
  let ending := Text.lower p.ending
  if ending == ".csv" then
    .ok ((Table.records (unmarked (← f.chars p))).map .map)
  else
    let text ← f.text p
    let document ← if ending == ".json" then jsonDocument text else yamlDocument text
    entriesOf p.text document

def load (f : Folder) (p : Path) : Except Error (List Row) := do
  let entries ← readEntries f p
  let mappings := entries.filterMap (fun (v : Value) => match v with
    | .map entries => some entries
    | _ => none)
  mappings.mapM ofAny

end Formwork.Row
