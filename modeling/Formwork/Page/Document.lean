import Formwork.Application.Metadata
import Formwork.Markup.Printer
import Formwork.Page.Dialog

/-!
The page of an application: a list tab, then a form tab for each tab. A form tab holds its header
and, if it has tables or sub-tabs, one group of tabs, which opens with the tab's own tables and goes
on with the sub-tabs; no table stands directly in a form tab. Dialogs follow the page.
-/
namespace Formwork.Page

structure Measures where
  /-- How many rows the list shows. -/
  listRows : Int
  /-- How many fields a column of a header holds. -/
  columnHeight : Int
  /-- How many rows a detail table shows. -/
  detailRows : Int
  deriving Repr, BEq

/-- A number of rows as a table shows it, refused where it has more digits than are written. -/
def shownRows (rows : Int) : Except Error Int :=
  if exceedsDigits rows then .error .overlong else .ok rows

/-- Refuse a panel that measures do not fit: a column height of zero where columns have to be
filled, and a number of rows that cannot be written where there is a table. -/
def fitPanel (columnHeight detailRows : Int) (p : Panel) : Except Error Unit :=
  if lacksHeight columnHeight p.header then .error .noColumnHeight
  else if p.tables.isEmpty then .ok ()
  else (shownRows detailRows).map (fun _ => ())

/-- The panels of an application in the order of its page. -/
def panelsOf (a : Application) : List Panel :=
  a.tabs.flatMap (fun t => t.panel :: t.subTabs.map (·.panel))

/-- The measures of a page from the settings. Those of form tabs are read only if there are some. -/
def Measures.read (s : Settings) (a : Application) : Except Error Measures := do
  let listRows ← shownRows (← s.listRows)
  if a.tabs.isEmpty then .ok ⟨listRows, 0, 0⟩
  else do
    let columnHeight ← s.fieldsPerColumn
    let detailRows ← s.detailRows
    (panelsOf a).forM (fitPanel columnHeight detailRows)
    .ok ⟨listRows, columnHeight, detailRows⟩

/-- The header section of a panel, if it has header fields. -/
def panelHeader (m : Measures) (id : String) (fields : List Field) : Numbered (List Element) :=
  if fields.isEmpty then pure []
  else do pure [← headerSection (id ++ "_grid") "" m.columnHeight fields]

def panelTables (m : Measures) (c : TableEntries) (tab : String) (p : Panel) :
    Numbered (List Element) :=
  p.tables.mapM (fun (relationship, fields) =>
    detailTable c tab relationship (toString m.detailRows) fields)

def subTabElement (m : Measures) (c : TableEntries) (tab : String) (s : SubTab) :
    Numbered Element := do
  let header ← panelHeader m s.id s.panel.header
  let tables ← panelTables m c tab s.panel
  pure (.node "tab" [("id", s.id), ("label", s.label)] (header ++ tables))

/-- The tab of the tables that belong to a tab itself, if it has some. -/
def primaryTab (m : Measures) (c : TableEntries) (t : Tab) : Numbered (List Element) :=
  if t.panel.tables.isEmpty then pure []
  else do
    let id ← freshId
    let tables ← panelTables m c t.label t.panel
    pure [.node "tab" [("id", id), ("label", t.mainDetailLabel)] tables]

/-- The group of tabs inside a form tab, if it needs one. -/
def innerGroup (m : Measures) (c : TableEntries) (t : Tab) : Numbered (List Element) :=
  if t.needsGroup then do
    let id ← freshId
    let primary ← primaryTab m c t
    let subs ← t.subTabs.mapM (subTabElement m c t.label)
    pure [.node "tabgroup" [("id", id), ("style", "form")] (primary ++ subs)]
  else pure []

def formTab (m : Measures) (c : TableEntries) (t : Tab) : Numbered Element := do
  let header ← panelHeader m t.id t.panel.header
  let group ← innerGroup m c t
  pure (.node "tab" [
    ("id", t.id),
    ("label", t.label),
    ("tabchangeevent", "switchedTab"),
    ("type", "insert")] (header ++ group))

def listTab (s : Settings) (m : Measures) (d : Metadata) (fields : List Field) :
    Numbered Element := do
  let table ← listTable d.recordName.plain d.orderBy.plain (toString m.listRows) fields
  pure (.node "tab" [
    ("default", "true"),
    ("id", "results"),
    ("label", s.listTabLabel),
    ("type", "list")] [
    .node "menubar" [
      ("event", "search"),
      ("id", "actiontoolbar"),
      ("sourcemethod", "getAppSearchOptions")] [],
    table])

/-- The group of the list tab and the form tabs. -/
def mainGroup (s : Settings) (m : Measures) (d : Metadata) (c : TableEntries) (a : Application) :
    Numbered Element := do
  let first ← listTab s m d a.list
  let forms ← a.tabs.mapM (formTab m c)
  pure (.node "tabgroup" [("id", "maintabs"), ("style", "form")] (first :: forms))

def pageElement (s : Settings) (m : Measures) (d : Metadata) (c : TableEntries)
    (a : Application) : Numbered Element := do
  let tabs ← mainGroup s m d c a
  let fixed (clone : String) : Element :=
    .node "include" [("controltoclone", clone), ("id", "INCLUDE-" ++ clone)] []
  pure (.node "page" [("id", "mainrec")] [
    fixed "pageHeader",
    .node "clientarea" [("id", "clientarea")] [tabs],
    fixed "pageFooter"])

/-- The document with the page and what follows it. -/
def presentation (d : Metadata) (content : List Element) : Element :=
  .node "presentation" (givenAttributes [
    ("id", d.id.plain),
    ("keyattribute", d.keyAttribute.plain),
    ("mboname", d.recordName.plain),
    ("orderby", d.orderBy.plain),
    ("resultstableid", resultsId),
    ("version", d.version.plain),
    ("whereclause", d.whereClause.plain),
    ("beanclass", d.beanclass.plain)]) content

def plainDocument (s : Settings) (m : Measures) (d : Metadata) (c : TableEntries)
    (a : Application) : Numbered Element := do
  pure (presentation d [← pageElement s m d c a])

/-- The document with the search dialog and the dialogs of templates. -/
def document (s : Settings) (m : Measures) (d : Metadata) (c : TableEntries)
    (templates : List DialogTemplate) (a : Application) : Numbered Element := do
  let page ← pageElement s m d c a
  let search ← searchDialog s.searchDialogLabel d.recordName.words a.searchable
  let dialogs ← templateDialogs templates
  pure (presentation d (page :: search :: dialogs))

def text (root : Element) : String :=
  Markup.documentText "" "\t" root

end Formwork.Page
