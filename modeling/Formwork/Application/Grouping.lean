import Formwork.Application.Metadata
import Formwork.Application.SubTabs
import Formwork.Application.Tree

/-!
Grouping. Rows become the tree of an application: list rows make up the list, and the others go to
the tab that they name, there to the sub-tab that they name, and there to the header or to the table
of their relationship. Tabs, sub-tabs and tables stand in the order in which rows first name them,
except that configured sub-tabs follow their configuration, and rows keep their order. A row of an
unknown area is left out.
-/
namespace Formwork

def Row.tab (s : Settings) (r : Row) : String :=
  (r.tabName.orElse (.text s.defaultTab)).plain

/-- The relationship of a detail row. -/
def Row.table (s : Settings) (r : Row) : String :=
  (r.relationship.orElse (.text s.defaultRelationship)).plain

/-- Whether a row stands on a tab, in a header or in a detail table. -/
def Row.isOnTab (r : Row) : Bool :=
  r.area == .header || r.area == .detail

/-- Clear the sub-tab of a row when it is none that is configured for its tab. -/
def Row.clearSubTab (s : Settings) (c : SubTabEntries) (r : Row) : Row :=
  if r.subTabName.truthy && !c.has (r.tab s) r.subTabName then { r with subTabName := .text "" }
  else r

def Field.clearSubTab (s : Settings) (c : SubTabEntries) (f : Field) : Field :=
  { f with toRow := f.toRow.clearSubTab s c }

/-- The panel of fields that belong to one tab or sub-tab. -/
def Panel.ofFields (s : Settings) (fields : List Field) : Panel :=
  { header := fields.filter (fun f => f.area == .header)
    tables := classes (fun f => f.toRow.table s) (fields.filter (fun f => f.area == .detail)) }

/-- The label of the detail area of a tab: the one given for the tab, else that of the settings. -/
def detailLabel (s : Settings) (labels : List (String × String)) (tab : String) : String :=
  let label := (labels.lookup tab).getD ""
  if label == "" then s.mainDetailLabel else label

/-- The tab of the given name with the fields that belong to it. -/
def Tab.ofFields (s : Settings) (labels : List (String × String)) (c : SubTabEntries)
    (name : String) (fields : List Field) : Tab :=
  let own := fields.filter (fun f => !f.subTabName.truthy)
  let subFields := classes (·.subTabName) (fields.filter (·.subTabName.truthy))
  let names := SubTabEntries.arrange (c.of name) (subFields.map (·.1))
  { id := tabId name
    label := name
    panel := Panel.ofFields s own
    subTabs := names.map (fun sub =>
      { id := subTabId name sub.words
        label := sub.words
        panel := Panel.ofFields s ((subFields.lookup sub).getD []) })
    mainDetailLabel := detailLabel s labels name }

namespace Application

/-- The tree of fields whose names, ids and bindings are settled. -/
def ofFields (s : Settings) (labels : List (String × String)) (c : SubTabEntries)
    (fields : List Field) : Application :=
  { list := fields.filter (fun f => f.area == .list)
    tabs := (classes (fun f => f.toRow.tab s) (fields.filter (·.isOnTab))).map
      (fun (name, members) => Tab.ofFields s labels c name members) }

/-- The tree of fields, some of which may have ids already. Ids are drawn in the order of the
fields. -/
def group (s : Settings) (m : Option Metadata) (labels : List (String × String))
    (c : Option SubTabEntries) (fields : List Field) : Numbered Application := do
  let cleared := match c with
    | some c => fields.map (Field.clearSubTab s c)
    | none => fields
  let placed ← cleared.mapM (Field.place (namingMark s m))
  pure (ofFields s labels (c.getD []) placed)

def ofRows (s : Settings) (m : Option Metadata) (labels : List (String × String))
    (c : Option SubTabEntries) (rows : List Row) : Numbered Application :=
  group s m labels c (rows.map Field.ofRow)

end Application

end Formwork
