import Formwork.Page.Section
import Formwork.Row.Record

/-!
Tables of the page: the detail tables of tabs, and the list of records, in which a row can be
selected and bookmarked.
-/
namespace Formwork

/-- How a detail table is shown, where it differs from the default. -/
structure TableEntry where
  relationship : Value := .text ""
  label : Value := .text ""
  orderBy : Value := .text ""
  /-- The class that drives the table. -/
  beanclass : Value := .text ""
  deriving Repr, BEq, Inhabited

namespace TableEntry

def ofValue (v : Value) : Except Error TableEntry := do
  let given ← Record.given v
  .ok {
    relationship := Record.text given "relationship" ""
    label := Record.text given "label" ""
    orderBy := Record.text given "order_by" ""
    beanclass := Record.text given "beanclass" "" }

def toPairs (e : TableEntry) : List (String × Value) :=
  [("relationship", e.relationship), ("label", e.label), ("order_by", e.orderBy),
    ("beanclass", e.beanclass)]

/-- The key under which the table of a relationship on a tab is configured. -/
def key (tab relationship : String) : String :=
  tab ++ ":" ++ relationship

end TableEntry

abbrev TableEntries := List (String × TableEntry)

namespace TableEntries

/-- The configured tables of a mapping. -/
def ofValue (v : Value) : Except Error TableEntries :=
  if !v.truthy then .ok []
  else match v with
    | .map entries => entries.mapM (fun (key, content) => do
        .ok (key.toText, ← TableEntry.ofValue content))
    | _ => .error .notRecord

/-- The configuration of a table. -/
def of (c : TableEntries) (tab relationship : String) : TableEntry :=
  (c.lookup (TableEntry.key tab relationship)).getD {}

/-- The label of a table: the configured one, else the words of the relationship. -/
def label (c : TableEntries) (tab relationship : String) : String :=
  let label := (c.of tab relationship).label
  if label.truthy then label.plain
  else relationship.map (fun ch => if ch == '_' then ' ' else ch)

end TableEntries

namespace Page

def flagWord (b : Bool) : String :=
  if b then "true" else "false"

/-- The column of a field in the list or in a detail table. -/
def tableColumn (inList hyperlink : Bool) (f : Field) : Numbered Element := do
  let id ← freshId
  let linked := f.applink.truthy
  pure (.node "tablecol" (givenAttributes [
    ("applink", f.applink.plain),
    ("dataattribute", f.dataattribute),
    ("filterable", only inList (flagWord f.filterable)),
    ("id", id),
    ("inputmode", only (f.inputMode.word == "readonly") "readonly"),
    ("label", f.label.plain),
    ("lookup", f.lookup.plain),
    ("menutype", only linked (if hyperlink then "hyperlink" else "normal")),
    ("mxevent", only inList "selectrecord"),
    ("mxevent_desc", only inList "移至%1"),
    ("sortable", only inList (flagWord f.sortable)),
    ("type", only (inList && linked) "link"),
    ("width", f.width)]) [])

def selectColumn (id keyAttribute : String) : Element :=
  .node "tablecol" [
    ("dataattribute", keyAttribute),
    ("filterable", "false"),
    ("id", id),
    ("mxevent", "toggleselectrow"),
    ("mxevent_desc", "選取橫列 \x7b0\x7d"),
    ("sortable", "false"),
    ("type", "event")] []

def bookmarkColumn : Element :=
  .node "tablecol" [
    ("filterable", "false"),
    ("id", "results_bookmark"),
    ("mxevent", "BOOKMARK"),
    ("mxevent_desc", "新增至書籤"),
    ("mxevent_icon", "btn_addtobookmarks.gif"),
    ("sortable", "false"),
    ("type", "event")] []

/-- The detail table of a relationship: a column per field, and a group of the buttons below. -/
def detailTable (c : TableEntries) (tab relationship rows : String) (fields : List Field) :
    Numbered Element := do
  let entry := c.of tab relationship
  let tableId ← freshId
  let bodyId ← freshId
  let columns ← (fields.filter (fun f => !f.isButton)).mapM (tableColumn false true)
  let body : Element := .node "tablebody" [("displayrowsperpage", rows), ("id", bodyId)] columns
  let buttons := fields.filter Field.isButton
  let groups ← if buttons.isEmpty then pure [] else do pure [← buttonGroup buttons]
  pure (.node "table" (givenAttributes [
    ("id", tableId),
    ("label", c.label tab relationship),
    ("relationship", relationship),
    ("orderby", entry.orderBy.plain),
    ("beanclass", entry.beanclass.plain)]) (body :: groups))

def resultsId : String := "results_showlist"

def listTable (record orderBy rows : String) (fields : List Field) : Numbered Element := do
  let bodyId := resultsId ++ "_tablebody"
  let keyAttribute := (fields.head?.map (·.dataattribute)).getD "ticketid"
  let columns ← fields.mapM (tableColumn true false)
  pure (.node "table" (givenAttributes [
    ("datasrc", resultsId),
    ("id", resultsId),
    ("inputmode", "readonly"),
    ("mboname", record),
    ("orderby", orderBy),
    ("selectmode", "multiple"),
    ("startempty", "false")]) [
    .node "tablebody" [
      ("displayrowsperpage", rows),
      ("filterable", "true"),
      ("filterexpanded", "true"),
      ("id", bodyId)]
      (selectColumn (bodyId ++ "_1") keyAttribute :: columns ++ [bookmarkColumn])])

end Page

end Formwork
