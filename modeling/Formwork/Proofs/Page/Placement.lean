import Formwork.Proofs.Artifact.Complete
import Formwork.Proofs.IdSource
import Formwork.Proofs.Markup.Attribute

/-!
# The places of sections, tables and tabs

What a page has to look like for a tree is said apart from what its sections and tables hold, which
`H`, `T` and `L` say of a header section, a table and the list tab. A form tab has a header section
if it has header fields, and one group of tabs if it has tables or sub-tabs; tables stand in the
tabs of that group only.
-/
namespace Formwork.Page

/-- Under a condition there is one element, with a property, and otherwise there is none. -/
def OneIf (c : Prop) (P : Element → Prop) (es : List Element) : Prop :=
  (c ∧ ∃ e, es = [e] ∧ P e) ∨ (¬ c ∧ es = [])

section Places

variable (H : List Field → Element → Prop) (T : List Field → Element → Prop)
  (L : List Field → Element → Prop)

def IsHeader (fields : List Field) (es : List Element) : Prop :=
  OneIf (fields ≠ []) (fun e => e.tag = "section" ∧ H fields e) es

/-- One table for each relationship, in order. -/
def AreTables (tables : List (String × List Field)) (es : List Element) : Prop :=
  List.Forall₂ (fun t e =>
    e.tag = "table" ∧ e.attribute? "relationship" = written t.1 ∧ T t.2 e) tables es

structure IsSubTab (s : SubTab) (e : Element) : Prop where
  tag : e.tag = "tab"
  label : e.attribute? "label" = some s.label
  /-- The header section stands first. -/
  children : ∃ header tables, e.children = header ++ tables ∧ IsHeader H s.panel.header header ∧
    AreTables T s.panel.tables tables

/-- The tab of the tables that belong to a tab itself. -/
structure IsPrimaryTab (t : Tab) (e : Element) : Prop where
  tag : e.tag = "tab"
  label : e.attribute? "label" = some t.mainDetailLabel
  tables : AreTables T t.panel.tables e.children

/-- The group of tabs inside a form tab. -/
structure IsInnerGroup (t : Tab) (e : Element) : Prop where
  tag : e.tag = "tabgroup"
  children : ∃ primary subs, e.children = primary ++ subs ∧
    OneIf (t.panel.tables ≠ []) (IsPrimaryTab T t) primary ∧
    List.Forall₂ (IsSubTab H T) t.subTabs subs

structure IsFormTab (t : Tab) (e : Element) : Prop where
  tag : e.tag = "tab"
  label : e.attribute? "label" = some t.label
  children : ∃ header group, e.children = header ++ group ∧ IsHeader H t.panel.header header ∧
    OneIf (t.panel.tables ≠ [] ∨ t.subTabs ≠ []) (IsInnerGroup H T t) group
  noTable : ∀ child ∈ e.children, child.tag ≠ "table"

structure IsListTab (fields : List Field) (e : Element) : Prop where
  tag : e.tag = "tab"
  type : e.attribute? "type" = some "list"
  content : L fields e

/-- The group of the list tab and the form tabs. -/
structure IsMainGroup (a : Application) (e : Element) : Prop where
  tag : e.tag = "tabgroup"
  children : ∃ first forms, e.children = first :: forms ∧ IsListTab L a.list first ∧
    List.Forall₂ (IsFormTab H T) a.tabs forms

/-- The page of a tree: its group of tabs between two parts that are included from elsewhere. -/
structure IsPage (a : Application) (e : Element) : Prop where
  tag : e.tag = "page"
  children : ∃ top client bottom group, e.children = [top, client, bottom] ∧
    (top.tag = "include" ∧ top.children = []) ∧ (bottom.tag = "include" ∧ bottom.children = []) ∧
    client.tag = "clientarea" ∧ client.children = [group] ∧ IsMainGroup H T L a group

end Places

section Build

variable {H : List Field → Element → Prop} {T : List Field → Element → Prop}
  {L : List Field → Element → Prop} {s : Settings} {m : Measures} {d : Metadata}
  {c : TableEntries}

/-- Header sections of columns of a height are as `H` says. -/
def MakesHeaders (H : List Field → Element → Prop) (height : Int) : Prop :=
  ∀ id fields, fields ≠ [] →
    (headerSection id "" height fields).Returns (fun e => e.tag = "section" ∧ H fields e)

/-- Detail tables are as `T` says. -/
def MakesTables (T : List Field → Element → Prop) (c : TableEntries) : Prop :=
  ∀ tab relationship rows fields, (detailTable c tab relationship rows fields).Returns
    (fun e => e.tag = "table" ∧ e.attribute? "relationship" = written relationship ∧ T fields e)

theorem returns_panelHeader (hH : MakesHeaders H m.columnHeight) (id : String)
    (fields : List Field) : (panelHeader m id fields).Returns (IsHeader H fields) := by
  rw [panelHeader]
  cases fields with
  | nil => exact Numbered.returns_pure (Or.inr ⟨fun h => h rfl, rfl⟩)
  | cons f fields =>
    have hne : f :: fields ≠ [] := List.cons_ne_nil f fields
    refine (hH _ _ hne).bind fun e he => ?_
    exact Numbered.returns_pure (Or.inl ⟨hne, e, rfl, he⟩)

theorem returns_panelTables (hT : MakesTables T c) (tab : String) (p : Panel) :
    (panelTables m c tab p).Returns (AreTables T p.tables) :=
  Numbered.returns_mapM fun t _ => hT tab t.1 _ t.2

theorem returns_subTabElement (hH : MakesHeaders H m.columnHeight) (hT : MakesTables T c)
    (tab : String) (sub : SubTab) : (subTabElement m c tab sub).Returns (IsSubTab H T sub) := by
  rw [subTabElement]
  refine (returns_panelHeader hH _ _).bind fun header hheader => ?_
  refine (returns_panelTables hT tab _).bind fun tables htables => ?_
  exact Numbered.returns_pure ⟨rfl, rfl, header, tables, rfl, hheader, htables⟩

theorem returns_primaryTab (hT : MakesTables T c) (t : Tab) :
    (primaryTab m c t).Returns (OneIf (t.panel.tables ≠ []) (IsPrimaryTab T t)) := by
  rw [primaryTab]
  split
  · next hempty =>
    rw [List.isEmpty_iff] at hempty
    exact Numbered.returns_pure (Or.inr ⟨fun h => h hempty, rfl⟩)
  · next hsome =>
    rw [List.isEmpty_iff] at hsome
    apply Numbered.returns_freshId_bind
    intro id
    refine (returns_panelTables hT t.label _).bind fun tables htables => ?_
    exact Numbered.returns_pure (Or.inl ⟨hsome, _, rfl, rfl, rfl, htables⟩)

theorem returns_innerGroup (hH : MakesHeaders H m.columnHeight) (hT : MakesTables T c) (t : Tab) :
    (innerGroup m c t).Returns
      (OneIf (t.panel.tables ≠ [] ∨ t.subTabs ≠ []) (IsInnerGroup H T t)) := by
  have hneeds : t.needsGroup = true ↔ t.panel.tables ≠ [] ∨ t.subTabs ≠ [] := by
    simp [Tab.needsGroup]
  rw [innerGroup]
  split
  · next h =>
    apply Numbered.returns_freshId_bind
    intro id
    refine (returns_primaryTab hT t).bind fun primary hprimary => ?_
    refine (Numbered.returns_mapM fun sub _ => returns_subTabElement hH hT t.label sub).bind
      fun subs hsubs => ?_
    exact Numbered.returns_pure
      (Or.inl ⟨hneeds.mp h, _, rfl, rfl, primary, subs, rfl, hprimary, hsubs⟩)
  · next h => exact Numbered.returns_pure (Or.inr ⟨fun hsome => h (hneeds.mpr hsome), rfl⟩)

theorem returns_formTab (hH : MakesHeaders H m.columnHeight) (hT : MakesTables T c) (t : Tab) :
    (formTab m c t).Returns (IsFormTab H T t) := by
  rw [formTab]
  refine (returns_panelHeader hH _ _).bind fun header hheader => ?_
  refine (returns_innerGroup hH hT t).bind fun group hgroup => ?_
  refine Numbered.returns_pure ⟨rfl, rfl, ⟨header, group, rfl, hheader, hgroup⟩, ?_⟩
  -- what stands in a form tab is a section or a group of tabs
  intro e he
  rcases List.mem_append.mp he with he | he
  · obtain ⟨-, e', rfl, htag, -⟩ | ⟨-, rfl⟩ := hheader
    · obtain rfl := List.mem_singleton.mp he
      rw [htag]
      decide
    · cases he
  · obtain ⟨-, e', rfl, hgroup⟩ | ⟨-, rfl⟩ := hgroup
    · obtain rfl := List.mem_singleton.mp he
      rw [hgroup.tag]
      decide
    · cases he

/-- A page is put together from header sections, tables and a list tab that are as they are to be.
-/
theorem returns_pageElement {a : Application}
    (hH : a.tabs ≠ [] → MakesHeaders H m.columnHeight) (hT : MakesTables T c)
    (hL : (listTab s m d a.list).Returns (IsListTab L a.list)) :
    (pageElement s m d c a).Returns (IsPage H T L a) := by
  have hforms : (a.tabs.mapM (formTab m c)).Returns (List.Forall₂ (IsFormTab H T) a.tabs) :=
    Numbered.returns_mapM fun t ht => returns_formTab (hH (List.ne_nil_of_mem ht)) hT t
  have hgroup : (mainGroup s m d c a).Returns (IsMainGroup H T L a) := by
    rw [mainGroup]
    refine hL.bind fun first hfirst => hforms.bind fun forms hforms => ?_
    exact Numbered.returns_pure ⟨rfl, first, forms, rfl, hfirst, hforms⟩
  rw [pageElement]
  refine hgroup.bind fun group hgroup => ?_
  exact Numbered.returns_pure
    ⟨rfl, _, _, _, group, rfl, ⟨rfl, rfl⟩, ⟨rfl, rfl⟩, rfl, rfl, hgroup⟩

theorem returns_headerSection_tag (id relationship : String) (height : Int) (fields : List Field) :
    (headerSection id relationship height fields).Returns (fun e => e.tag = "section") := by
  intro src
  rfl

/-- The group of the buttons of a detail table, if it has some. -/
def buttonGroups (buttons : List Field) : Numbered (List Element) :=
  if buttons.isEmpty then pure []
  else do
    let group ← buttonGroup buttons
    pure [group]

theorem detailTable_eq (c : TableEntries) (tab relationship rows : String) (fields : List Field) :
    detailTable c tab relationship rows fields = (do
      let tableId ← freshId
      let bodyId ← freshId
      let columns ← (fields.filter (fun f => !f.isButton)).mapM (tableColumn false true)
      let groups ← buttonGroups (fields.filter Field.isButton)
      pure (.node "table" (givenAttributes [
        ("id", tableId),
        ("label", c.label tab relationship),
        ("relationship", relationship),
        ("orderby", (c.of tab relationship).orderBy.plain),
        ("beanclass", (c.of tab relationship).beanclass.plain)])
        (.node "tablebody" [("displayrowsperpage", rows), ("id", bodyId)] columns :: groups))) := by
  rw [detailTable]
  -- whether there are buttons is asked under the binders of what is drawn before
  refine congrArg (freshId >>= ·) (funext fun tableId => ?_)
  refine congrArg (freshId >>= ·) (funext fun bodyId => ?_)
  refine congrArg (List.mapM _ _ >>= ·) (funext fun columns => ?_)
  dsimp only
  rw [buttonGroups]
  split <;> rfl

theorem returns_detailTable_relationship (tab relationship rows : String) (fields : List Field) :
    (detailTable c tab relationship rows fields).Returns
      (fun e => e.tag = "table" ∧ e.attribute? "relationship" = written relationship) := by
  intro src
  rw [detailTable_eq]
  refine ⟨rfl, ?_⟩
  show (givenAttributes _).lookup "relationship" = _
  rw [lookup_givenAttributes (by simp)]
  rfl

theorem returns_listTab_tag (s : Settings) (m : Measures) (d : Metadata) (fields : List Field) :
    (listTab s m d fields).Returns
      (fun e => e.tag = "tab" ∧ e.attribute? "type" = some "list") := by
  intro src
  exact ⟨rfl, rfl⟩

/-- The first element of a document is its page. -/
theorem returns_document {a : Application} {P : Element → Prop}
    (h : (pageElement s m d c a).Returns P) (dialogs : List DialogTemplate) :
    (document s m d c dialogs a).Returns
        (fun root => ∃ page rest, root.children = page :: rest ∧ P page) ∧
      (plainDocument s m d c a).Returns (fun root => ∃ page, root.children = [page] ∧ P page) :=
  ⟨fun src => ⟨_, _, rfl, h src⟩, fun src => ⟨_, rfl, h src⟩⟩

end Build

/-- The parts of a page stand where they are to stand, whatever they hold. -/
def IsPlaced (a : Application) (page : Element) : Prop :=
  IsPage (fun _ _ => True) (fun _ _ => True) (fun _ _ => True) a page

/-- **Every part of a tree has its place on the page.** The main group holds the list tab and then a
form tab for each tab of the tree. A form tab has its header section if the tab has header fields,
and then one group if the tab has tables or sub-tabs; the group opens with the tab's own tables and
goes on with the sub-tabs, and no table stands in the form tab itself. -/
theorem isPlaced_document (s : Settings) (m : Option Metadata) (labels : List (String × String))
    (c : Option SubTabEntries) (rows : List Row) (src : IdSource) (d : Metadata)
    (entries : TableEntries) (dialogs : List DialogTemplate) :
    let grouped := (Application.ofRows s m labels c rows).run src
    (s.WellTyped → ∃ measures, Measures.read s grouped.1 = .ok measures) ∧
      ∀ measures, Measures.read s grouped.1 = .ok measures →
        (∃ page rest,
          ((document s measures d entries dialogs grouped.1).run grouped.2).1.children =
            page :: rest ∧ IsPlaced grouped.1 page) ∧
        ∃ page, ((plainDocument s measures d entries grouped.1).run grouped.2).1.children =
          [page] ∧ IsPlaced grouped.1 page := by
  intro grouped
  refine ⟨fun hs => exists_measures hs grouped.1, fun measures _ => ?_⟩
  have hpage : (pageElement s measures d entries grouped.1).Returns (IsPlaced grouped.1) := by
    refine returns_pageElement (fun _ id fields _ => ?_) (fun tab relationship rows fields => ?_) ?_
    · exact (returns_headerSection_tag id "" _ fields).imp fun e he => ⟨he, trivial⟩
    · exact (returns_detailTable_relationship tab relationship rows fields).imp
        fun e he => ⟨he.1, he.2, trivial⟩
    · exact (returns_listTab_tag s measures d _).imp fun e he => ⟨he.1, he.2, trivial⟩
  obtain ⟨hdocument, hplain⟩ := returns_document hpage dialogs
  exact ⟨hdocument grouped.2, hplain grouped.2⟩

/-- A tab with a header, tables of its own and a sub-tab. -/
theorem isPlaced_document_subTab :
    let rows : List Row := [{ label := .text "Status" },
      { label := .text "Line", area := .detail, relationship := .text "SRLINE" },
      { label := .text "Owner", subTabName := .text "People" }]
    let grouped := (Application.ofRows .builtin none [] none rows).run ⟨"1000", 0⟩
    ∃ measures, Measures.read .builtin grouped.1 = .ok measures ∧
      ∃ page, ((plainDocument .builtin measures {} [] grouped.1).run grouped.2).1.children =
        [page] ∧ IsPlaced grouped.1 page := by
  intro rows grouped
  obtain ⟨hread, hplaced⟩ :=
    isPlaced_document .builtin none [] none rows ⟨"1000", 0⟩ {} [] []
  obtain ⟨measures, hmeasures⟩ := hread Settings.wellTyped_builtin
  exact ⟨measures, hmeasures, (hplaced measures hmeasures).2⟩

end Formwork.Page
