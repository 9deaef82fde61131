import Formwork.Page.Table

/-!
Dialogs after the main page: the search dialog, which the page always has, and dialogs from
templates.
-/
namespace Formwork

structure DialogTable where
  /-- The relationship; a table without one is left out. -/
  relationship : Value := .text ""
  label : Value := .text ""
  orderBy : Value := .text ""
  /-- The class that drives the table. -/
  beanclass : Value := .text ""
  /-- The rows whose fields are the columns. -/
  fields : List Row := []
  deriving Repr, BEq, Inhabited

structure DialogTemplate where
  id : Value := .text ""
  /-- The id of the dialog; a dialog without one is left out. -/
  dialogId : Value := .text ""
  label : Value := .text ""
  /-- The class that drives the dialog. -/
  beanclass : Value := .text ""
  recordName : Value := .text ""
  /-- The relationship through which it shows one, where it names none. -/
  relationship : Value := .text ""
  header : List Row := []
  tables : List DialogTable := []
  deriving Repr, BEq, Inhabited

/-- The rows in a part of a mapping, none when the part is missing. -/
def rowsOf (entries : List (Value × Value)) (name : String) : Except Error (List Row) :=
  Row.ofValues ((Value.lookup? name entries).getD (.list []))

def DialogTable.ofValue : Value → Except Error DialogTable
  | .map entries => do
    let given ← Record.given (.map (entries.filter (fun (key, _) => key != .text "fields")))
    .ok {
      relationship := Record.text given "relationship" ""
      label := Record.text given "label" ""
      orderBy := Record.text given "order_by" ""
      beanclass := Record.text given "beanclass" ""
      fields := ← rowsOf entries "fields" }
  | _ => .error .notRecord

namespace DialogTemplate

/-- A part of a template under either spelling of its name. -/
def part (entries : List (Value × Value)) (snake camel : String) : Value :=
  (Value.lookup? snake entries).getD ((Value.lookup? camel entries).getD (.list []))

def ofValue : Value → Except Error DialogTemplate
  | .map entries => do
    let _ ← Record.named entries
    let isPart : Value → Bool
      | .text key => ["header_fields", "detail_tables"].contains (Record.snakeKey key)
      | _ => false
    let given ← Record.given (.map (entries.filter (fun (key, _) => !isPart key)))
    let text name := Record.text given name ""
    let header ← (part entries "header_fields" "headerFields").items
    let tables ← (part entries "detail_tables" "detailTables").items
    .ok {
      id := text "id"
      dialogId := text "dialog_id"
      label := text "label"
      beanclass := text "beanclass"
      recordName := text "mbo_name"
      relationship := text "relationship"
      header := ← header.mapM Row.ofValue
      tables := ← tables.mapM DialogTable.ofValue }
  | _ => .error .notRecord

end DialogTemplate

namespace Page

def singleColumn (fill : Numbered (List Element)) : Numbered Element := do
  let sectionId ← freshId
  let rowId ← freshId
  let columnId ← freshId
  let content ← fill
  pure (.node "section" [("id", sectionId)]
    [.node "sectionrow" [("id", rowId)] [.node "sectioncol" [("id", columnId)] content]])

def endingButtons (confirm cancel : String) : Numbered Element := do
  let groupId ← freshId
  let first ← button true confirm confirmEvent
  let second ← button false cancel "dialogcancel"
  pure (.node "buttongroup" [("id", groupId)] [first, second])

/-- The search dialog: a text box for a search condition on every field that can be filtered. -/
def searchDialog (label record : String) (fields : List Field) : Numbered Element := do
  let body ← singleColumn ((fields.filter (·.filterable)).mapM (textBox .query))
  let buttons ← endingButtons "搜尋" "取消"
  pure (.node "dialog" [
    ("id", "searchmore"),
    ("label", label),
    ("mboname", if record == "" then "SR" else record)] [body, buttons])

/-- A row as a field of a dialog, bound through its relationship. -/
def dialogField (r : Row) : Numbered Field := do
  let id ← freshId
  let name := r.fieldName.plain
  let dataattribute := if r.relationship.truthy then r.relationship.plain ++ "." ++ name else name
  pure { r.settle with id, dataattribute }

def dialogControl (r : Row) : Numbered Element := do
  control (← dialogField r)

def dialogColumn (r : Row) : Numbered Element := do
  let id ← freshId
  pure (.node "tablecol" (givenAttributes [
    ("dataattribute", r.fieldName.plain),
    ("id", id),
    ("label", r.label.plain),
    ("inputmode", modeWord r.inputMode.word),
    ("lookup", r.lookup.plain),
    ("width", r.width)]) [])

def dialogTable (t : DialogTable) : Numbered Element := do
  let tableId ← freshId
  let bodyId ← freshId
  let columns ← t.fields.mapM dialogColumn
  pure (.node "table" (givenAttributes [
    ("id", tableId),
    ("relationship", t.relationship.plain),
    ("label", t.label.plain),
    ("orderby", t.orderBy.plain),
    ("beanclass", t.beanclass.plain)])
    [.node "tablebody" [("displayrowsperpage", "10"), ("id", bodyId)] columns])

def templateDialog (t : DialogTemplate) : Numbered Element := do
  let header ←
    if t.header.isEmpty then pure []
    else do pure [← singleColumn (t.header.mapM dialogControl)]
  let shown := t.tables.filter (fun d => d.relationship.truthy && !d.fields.isEmpty)
  let tables ← shown.mapM dialogTable
  let buttons ← endingButtons "OK" "Cancel"
  pure (.node "dialog" (givenAttributes [
    ("id", t.dialogId.plain),
    ("label", t.label.plain),
    ("beanclass", t.beanclass.plain),
    ("mboname", t.recordName.plain),
    ("relationship", if t.recordName.truthy then "" else t.relationship.plain)])
    (header ++ tables ++ [buttons]))

def templateDialogs (templates : List DialogTemplate) : Numbered (List Element) :=
  (templates.filter (·.dialogId.truthy)).mapM templateDialog

end Page

end Formwork
