import Formwork.Text.Part
import Formwork.Value.Coerce

/-!
Settings. A settings document is a mapping of sections; each section is laid over the built-in
section of its name, entry by entry, so that a partial document still gives complete settings. The
accessors read single settings by their meaning. A setting that is to be a number is checked when it
is used and not before.
-/
namespace Formwork

structure Settings where
  /-- The entries of the settings: a section's name and its content. -/
  sections : List (Value × Value)
  deriving Repr, BEq

namespace Settings

def builtin : Settings :=
  { sections := [
      (.text "grouping", .ofPairs [
        ("default_tab", .text "Main"),
        ("main_detail_label", .text "主區域"),
        ("default_relationship", .text "default")]),
      (.text "naming", .ofPairs [("custom_prefix", .text "ZZ_")]),
      (.text "presentation", .ofPairs [
        ("list_tab_label", .text "List"),
        ("fields_per_column", .int 4),
        ("detail_rows_per_page", .int 10),
        ("list_rows_per_page", .int 50),
        ("search_dialog_label", .text "更多搜尋欄位")]),
      (.text "legacy", .ofPairs [
        ("skip_blocks", .texts ["HEAD_BLOCK", "TOOL_BUTTON", "CBLK"]),
        ("convert_skip_blocks", .texts ["TOOL_BUTTON", "HEAD_BLOCK"]),
        ("skip_relationships", .texts ["PCS1005"]),
        ("system_button_labels", .texts ["Save", "Query", "Record", "Scroll", "Values", "Form",
          "Clear", "Exit", "F6", "F7", "F8", "F9", "F10"]),
        ("visible_canvases", .texts ["CANVAS_BODY", "CANVAS_TAB"]),
        ("header_canvas", .text "CANVAS_BODY"),
        ("max_list_fields", .int 10)]),
      (.text "dbc", .ofPairs [
        ("author", .text "FormGen"),
        ("description", .text "Generated from field definitions"),
        ("table_type", .text "system"),
        ("classname", .text "psdi.mbo.custapp.CustomMbo"),
        ("service", .text "CUSTAPP")]),
      (.text "layout", .ofPairs [
        ("node_width", .int 240),
        ("min_node_height", .int 80),
        ("node_base_height", .int 60),
        ("field_row_height", .int 20),
        ("node_spacing", .int 50),
        ("layer_spacing", .int 80),
        ("sweeps", .int 4)])] }

instance : Inhabited Settings := ⟨builtin⟩

/-- Lay one section over the settings. -/
def layer (s : Settings) (name content : Value) : Except Error Settings :=
  match content with
  | .null => .ok s
  | content =>
    match s.sections.lookup name with
    | none => .ok { sections := s.sections ++ [(name, content)] }
    | some old =>
      match old, content with
      | .map entries, .map values =>
        let merged := values.foldl (fun done (k, v) => Value.put k v done) entries
        .ok { sections := Value.put name (.map merged) s.sections }
      | _, _ => .error (.sectionShape name.toText)

/-- Lay a settings document, found at a path, over the settings. -/
def overlay (s : Settings) (path : String) (document : Value) : Except Error Settings :=
  if !document.truthy then .ok s
  else match document with
    | .map entries => entries.foldlM (fun s (name, content) => s.layer name content) s
    | other => .error (.settingsShape path other.kindName)

/-- The content of a section; an unknown section is empty. -/
def contents (s : Settings) (name : String) : Value :=
  (Value.lookup? name s.sections).getD (.map [])

def setting (s : Settings) (name key : String) : Value :=
  (s.contents name).get key

/-- A single setting as a text. -/
def wording (s : Settings) (name key : String) : String :=
  (s.setting name key).plain

/-- A single setting, the built-in one where it is nothing. -/
def settingOrBuiltin (s : Settings) (name key : String) : Value :=
  match s.setting name key with
  | .null => builtin.setting name key
  | v => v

/-- The names that a setting lists; of a text they are its characters. What cannot be walked over is
refused, and so is an entry that is no plain value. -/
def names (s : Settings) (name key : String) : Except Error (List String) := do
  let entries ← (s.setting name key).items
  let texts ← entries.mapM (fun (v : Value) => match v with
    | .text t => Except.ok [t]
    | .list _ => .error (.wrongKind "unhashable type: 'list'")
    | .map _ => .error (.wrongKind "unhashable type: 'dict'")
    | _ => .ok [])
  .ok texts.flatten

/-- The blocks of a form that are skipped: those that the setting lists, or, of a text, those whose
names are parts of it. -/
def skippedBlocks (s : Settings) : Except Error (String → Bool) :=
  match s.settingOrBuiltin "legacy" "skip_blocks" with
  | .text words => .ok (Text.hasPart words)
  | .list names => .ok (fun name => names.contains (.text name))
  | .map entries => .ok (fun name => (entries.map (·.1)).contains (.text name))
  | v => .error (.wrongKind ("argument of type '" ++ v.kindName ++ "' is not iterable"))

/-- The labels of the buttons of the system; of a text they are its characters. -/
def systemLabels (s : Settings) : Except Error (List String) := do
  (← (s.settingOrBuiltin "legacy" "system_button_labels").items).mapM (fun v => match v with
    | .text label => .ok label
    | v => .error (.wrongKind
        ("'in <string>' requires string as left operand, not " ++ v.kindName)))

/-- The tab of rows that name none. -/
def defaultTab (s : Settings) : String := (s.setting "grouping" "default_tab").toText

/-- The relationship of detail rows that name none. -/
def defaultRelationship (s : Settings) : String :=
  (s.setting "grouping" "default_relationship").toText

/-- The label of the primary detail area of tabs that have no label for it. -/
def mainDetailLabel (s : Settings) : String := s.wording "grouping" "main_detail_label"

/-- The mark of custom attribute names. -/
def customMark (s : Settings) : String := (s.setting "naming" "custom_prefix").toText

def listTabLabel (s : Settings) : String := s.wording "presentation" "list_tab_label"

def searchDialogLabel (s : Settings) : String := s.wording "presentation" "search_dialog_label"

/-- How many header fields a column holds. -/
def fieldsPerColumn (s : Settings) : Except Error Int :=
  (s.setting "presentation" "fields_per_column").integer

/-- How many rows a detail table shows. -/
def detailRows (s : Settings) : Except Error Int :=
  (s.setting "presentation" "detail_rows_per_page").integer

/-- How many rows the list shows. -/
def listRows (s : Settings) : Except Error Int :=
  (s.setting "presentation" "list_rows_per_page").integer

end Settings

end Formwork
