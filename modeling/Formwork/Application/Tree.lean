import Formwork.IdSource
import Formwork.Row.Name

/-!
The tree of an application: its list and its tabs, each with a header, with detail tables by
relationship, and with sub-tabs that have a header and tables of their own.
-/
namespace Formwork

/-- A row with the id of its element and its data binding. -/
structure Field extends Row where
  /-- The id of the element; empty when it has none yet. -/
  id : String := ""
  dataattribute : String := ""
  deriving Repr, BEq, Inhabited

namespace Field

/-- A row as a field that has no id yet. -/
def ofRow (r : Row) : Field :=
  { r with id := "", dataattribute := "" }

/-- The attributes of a field that have a value, in order. -/
def toPairs (f : Field) : List (String × Value) :=
  f.toRow.toPairs ++ [("id", .text f.id), ("dataattribute", .text f.dataattribute)]

/-- The field with its name, id and binding settled; an id that it has already is kept. -/
def place (mark : String) (f : Field) : Numbered Field := do
  let row := f.toRow.resolve mark
  let id ← if f.id == "" then freshId else pure f.id
  pure { row.settle with id, dataattribute := row.binding }

/-- Whether the field is shown as a button. -/
def isButton (f : Field) : Bool :=
  f.control.word == "pushbutton"

end Field

/-- A header and detail tables. -/
structure Panel where
  header : List Field
  /-- The fields of the tables by relationship. -/
  tables : List (String × List Field)
  deriving Repr, BEq, Inhabited

structure SubTab where
  id : String
  /-- The label, which is also the name. -/
  label : String
  panel : Panel
  deriving Repr, BEq, Inhabited

structure Tab where
  id : String
  /-- The label, which is also the name. -/
  label : String
  /-- What it shows itself. -/
  panel : Panel
  subTabs : List SubTab
  /-- The label of its own detail tables. -/
  mainDetailLabel : String
  deriving Repr, BEq, Inhabited

/-- Whether the tab holds a group of tabs: it has tables or sub-tabs. -/
def Tab.needsGroup (t : Tab) : Bool :=
  !t.panel.tables.isEmpty || !t.subTabs.isEmpty

/-- An application: the fields of its list, and its tabs. -/
structure Application where
  list : List Field
  tabs : List Tab
  deriving Repr, BEq, Inhabited

def Panel.fields (p : Panel) : List Field :=
  p.header ++ p.tables.flatMap (·.2)

/-- The fields of a tab, those of its sub-tabs last. -/
def Tab.fields (t : Tab) : List Field :=
  t.panel.fields ++ t.subTabs.flatMap (·.panel.fields)

namespace Application

/-- The fields of an application in the order of the tree. -/
def flatten (a : Application) : List Field :=
  a.tabs.flatMap Tab.fields ++ a.list

/-- The labels of the detail areas by tab. -/
def mainDetailLabels (a : Application) : List (String × String) :=
  a.tabs.map (fun t => (t.label, t.mainDetailLabel))

/-- The fields for which one can search: headers and the list. -/
def searchable (a : Application) : List Field :=
  a.tabs.flatMap (fun t => t.panel.header ++ t.subTabs.flatMap (·.panel.header)) ++ a.list

end Application

end Formwork
