import Formwork.Artifact
import Formwork.Folder
import Formwork.Yaml.Reader

/-!
Descriptions of applications. A description holds the metadata of an application and everything else
that is not a row: labels, tables, dialogs, sub-tabs and the texts of the resource script. In a file
the metadata stand under `metadata`, or between the other entries when there is no such entry.
-/
namespace Formwork

/-- What is said of an application besides its rows. -/
structure Description where
  metadata : Metadata := {}
  /-- Labels of the primary detail areas by tab. -/
  mainDetailLabels : Value := .null
  tables : TableEntries := []
  dialogs : List DialogTemplate := []
  /-- Configured sub-tabs, if sub-tabs are configured. -/
  subTabs : Option SubTabEntries := none
  /-- The name for the file of the resource script. -/
  moduleName : Value := .text ""
  /-- The description of the primary record. -/
  moduleTitle : Value := .text ""
  /-- The envelope of the resource script, as far as it is given. -/
  envelope : Value := .null
  deriving Repr, BEq, Inhabited

namespace Description

/-- The entries of a description besides the metadata. -/
def partNames : List String :=
  ["main_detail_labels", "detail_table_configs", "dialog_templates", "sub_tab_configs",
    "module_name", "module_title", "script_metadata"]

/-- The description with the given metadata and the other entries of a mapping. -/
def ofParts (metadata : Value) (v : Value) : Except Error Description := do
  let metadata ← Metadata.ofValue metadata
  let tables ← TableEntries.ofValue (v.get "detail_table_configs")
  let templates := v.get "dialog_templates"
  let items ← if templates.truthy then templates.items else .ok []
  let dialogs ← items.mapM DialogTemplate.ofValue
  let subTabs ← match v.get "sub_tab_configs" with
    | .null => .ok none
    | c => do .ok (some (← SubTabEntries.ofValue c))
  .ok {
    metadata
    mainDetailLabels := v.get "main_detail_labels"
    tables
    dialogs
    subTabs
    moduleName := (v.get? "module_name").getD (.text "")
    moduleTitle := (v.get? "module_title").getD (.text "")
    envelope := v.get "script_metadata" }

/-- The description in a mapping with metadata of its own or between the other entries. -/
def ofEntries (entries : List (Value × Value)) : Except Error Description :=
  let v : Value := .map entries
  let isPart : Value → Bool
    | .text key => partNames.contains key
    | _ => false
  match v.get "metadata" with
  | .null => ofParts (.map (entries.filter (fun (key, _) => !isPart key))) v
  | metadata => ofParts metadata v

/-- The description in the file at a path. -/
def load (f : Folder) (path : String) : Except Error Description := do
  match Yaml.read? (← f.text (.ofText path)) with
  | none => .error .badYaml
  | some document =>
    if !document.truthy then ofEntries []
    else match document with
      | .map entries => ofEntries entries
      | _ => .error (.descriptionShape path)

/-- The labels in a mapping from tabs. -/
def labelsOf (v : Value) : Except Error (List (String × String)) :=
  if !v.truthy then .ok []
  else match v with
    | .map entries => .ok (entries.map (fun (tab, label) => (tab.toText, label.words)))
    | _ => .error .notRecord

def envelopeOf (v : Value) : Except Error Resource.Envelope :=
  if !v.truthy then .ok {}
  else match v with
    | .map _ => .ok {
        author := (v.get "author").words
        scriptname := (v.get "scriptname").words
        description := (v.get "description").words }
    | _ => .error .notRecord

/-- What an application is made from: rows and a description. Problems of the rows are found before
those of the description. -/
def inputs (d : Description) (rows : List Row) : Except Error ApplicationInputs := do
  Row.requireSound (some d.metadata) rows
  let mainDetailLabels ← labelsOf d.mainDetailLabels
  let envelope ← envelopeOf d.envelope
  .ok {
    rows
    metadata := d.metadata
    mainDetailLabels
    tables := d.tables
    dialogs := d.dialogs
    subTabs := d.subTabs
    moduleName := d.moduleName.words
    moduleTitle := d.moduleTitle.words
    envelope }

end Description

end Formwork
