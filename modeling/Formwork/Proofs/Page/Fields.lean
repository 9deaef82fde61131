import Formwork.Proofs.Application.Fields
import Formwork.Proofs.Application.Parts
import Formwork.Proofs.Page.Marks

/-!
# Every field on the page

A tree of rows holds their fields in the order of the rows. The page of a tree shows each of them
once, in its place, and has no other bindings but the one of the column that selects a row.
-/
namespace Formwork

/-- The places of a panel hold fields in the order of a list. -/
structure Panel.InOrder (fields : List Field) (p : Panel) : Prop where
  header : p.header.Sublist fields
  tables : ∀ t ∈ p.tables, t.2.Sublist fields

/-- A tree holds the fields of a list whose area is known, each once, in the order of the list. -/
structure Application.InOrder (fields : List Field) (a : Application) : Prop where
  perm : a.flatten.Perm (fields.filter (fun f => Row.isKnownArea f.area))
  list : a.list.Sublist fields
  tabs : ∀ t ∈ a.tabs, t.panel.InOrder fields
  subTabs : ∀ t ∈ a.tabs, ∀ sub ∈ t.subTabs, sub.panel.InOrder fields

namespace Application

variable {s : Settings} {labels : List (String × String)} {c : SubTabEntries} {fields : List Field}

theorem inOrder_panel {part : List Field} (h : part.Sublist fields) :
    (Panel.ofFields s part).InOrder fields where
  header := List.filter_sublist.trans h
  tables := by
    intro t ht
    obtain ⟨relationship, -, rfl⟩ := List.mem_map.mp ht
    exact List.filter_sublist.trans (List.filter_sublist.trans h)

theorem inOrder_ofFields : (ofFields s labels c fields).InOrder fields := by
  have hon : ∀ name, (onTab s fields name).Sublist fields :=
    fun name => List.filter_sublist.trans List.filter_sublist
  rw [ofFields_eq]
  refine ⟨?_, List.filter_sublist, ?_, ?_⟩
  · rw [← ofFields_eq]
    exact flatten_ofFields_perm
  · intro t ht
    obtain ⟨name, -, rfl⟩ := List.mem_map.mp ht
    rw [tabOf, Tab.ofFields_eq]
    exact inOrder_panel (List.filter_sublist.trans (hon name))
  · intro t ht sub hsub
    obtain ⟨name, -, rfl⟩ := List.mem_map.mp ht
    rw [tabOf, Tab.ofFields_eq] at hsub
    obtain ⟨sub, -, rfl⟩ := List.mem_map.mp hsub
    exact inOrder_panel (List.filter_sublist.trans (List.filter_sublist.trans (hon name)))

/-- In the header there are header fields, and in the tables there are none. -/
theorem filter_panel_fields {p : Field → Bool} (part : List Field) :
    ((Panel.ofFields s part).fields.filter (fun f => p f && f.area != .detail)) =
      (Panel.ofFields s part).header.filter p := by
  have htables : ((Panel.ofFields s part).tables.flatMap (·.2)).filter
      (fun f => p f && f.area != .detail) = [] := by
    refine List.filter_eq_nil_iff.mpr fun f hf => ?_
    rw [Panel.area_of_mem_tables hf]
    simp
  rw [Panel.fields, List.filter_append, htables, List.append_nil]
  refine List.filter_congr fun f hf => ?_
  rw [Panel.area_of_mem_header hf]
  exact Bool.and_true _

/-- The fields for which one can search are those outside the detail tables. -/
theorem filter_searchable (p : Field → Bool) :
    (ofFields s labels c fields).searchable.filter p =
      (ofFields s labels c fields).flatten.filter (fun f => p f && f.area != .detail) := by
  have hlist : (fields.filter (fun f => f.area == .list)).filter
        (fun f => p f && f.area != .detail) =
      (fields.filter (fun f => f.area == .list)).filter p := by
    refine List.filter_congr fun f hf => ?_
    rw [beq_iff_eq.mp (List.mem_filter.mp hf).2]
    exact Bool.and_true _
  rw [searchable, flatten, ofFields_eq, List.filter_append, List.filter_append, hlist,
    List.filter_flatMap, List.filter_flatMap, List.flatMap_map, List.flatMap_map]
  congr 1
  refine List.flatMap_congr fun name _ => ?_
  rw [Tab.fields, tabOf, Tab.ofFields_eq, List.filter_append, List.filter_append,
    filter_panel_fields, List.filter_flatMap, List.filter_flatMap, List.flatMap_map,
    List.flatMap_map]
  congr 1
  exact List.flatMap_congr fun sub _ => (filter_panel_fields _).symm

end Application

namespace Page

/-- The binding of the column of a field in a detail table. A button has none. -/
def tableBinding? (f : Field) : Option String :=
  if f.isButton then none else written f.dataattribute

def panelBindings (p : Panel) : List String :=
  p.header.filterMap controlBinding? ++ (p.tables.flatMap (·.2)).filterMap tableBinding?

def tabBindings (t : Tab) : List String :=
  panelBindings t.panel ++ t.subTabs.flatMap (fun sub => panelBindings sub.panel)

/-- The bindings of the fields of a tree, and that of the column that selects a row. -/
def pageBindings (a : Application) : List String :=
  keyAttribute a.list :: (a.tabs.flatMap tabBindings ++
    a.list.filterMap (fun f => written f.dataattribute))

section Bindings

variable {height : Int}

theorem filterMap_columnMarks (fields : List Field) :
    (fields.flatMap columnMarks).filterMap Mark.binding? =
      fields.filterMap (fun f => written f.dataattribute) := by
  rw [List.filterMap_flatMap, List.filterMap_eq_flatMap_toList]
  refine List.flatMap_congr fun f _ => ?_
  rw [columnMarks]
  cases written f.dataattribute <;> rfl

theorem filterMap_controlMarks (fields : List Field) :
    (fields.flatMap controlMarks).filterMap Mark.binding? = fields.filterMap controlBinding? := by
  rw [List.filterMap_flatMap, List.filterMap_eq_flatMap_toList]
  refine List.flatMap_congr fun f _ => ?_
  rw [controlMarks]
  split
  · next h =>
    rw [controlBinding?, if_pos (Or.inr h)]
    cases written f.id <;> rfl
  · cases controlBinding? f <;> rfl

theorem filterMap_tableMarks (fields : List Field) :
    (tableMarks fields).filterMap Mark.binding? = fields.filterMap tableBinding? := by
  rw [tableMarks, filterMap_columnMarks, List.filterMap_filter]
  refine List.filterMap_congr fun f _ => ?_
  rw [tableBinding?]
  cases f.isButton <;> rfl

theorem filterMap_headerMarks (hheight : 1 ≤ height) (id : String) (fields : List Field) :
    ((headerMarks height id fields).filterMap Mark.binding?).Perm
      (fields.filterMap controlBinding?) := by
  rw [headerMarks]
  split
  · next hempty =>
    rw [List.isEmpty_iff.mp hempty]
    exact List.Perm.refl _
  · next hsome =>
    have hne : fields ≠ [] := fun h => hsome (List.isEmpty_iff.mpr h)
    rw [List.filterMap_append, flatMap_columns, filterMap_controlMarks]
    show (_ ++ []).Perm _
    rw [List.append_nil]
    exact (isColumns_columns hheight hne).perm.filterMap _

theorem filterMap_panelMarks (hheight : 1 ≤ height) (id : String) (p : Panel) :
    ((panelMarks height id p).filterMap Mark.binding?).Perm (panelBindings p) := by
  have htables : (p.tables.flatMap (fun t => tableMarks t.2)).filterMap Mark.binding? =
      (p.tables.flatMap (·.2)).filterMap tableBinding? := by
    rw [List.filterMap_flatMap, List.filterMap_flatMap]
    exact List.flatMap_congr fun t _ => filterMap_tableMarks t.2
  rw [panelMarks, panelBindings, List.filterMap_append, htables]
  exact (filterMap_headerMarks hheight id p.header).append_right _

theorem filterMap_tabMarks (hheight : 1 ≤ height) (t : Tab) :
    ((tabMarks height t).filterMap Mark.binding?).Perm (tabBindings t) := by
  have hsubs : ((t.subTabs.flatMap (subTabMarks height)).filterMap Mark.binding?).Perm
      (t.subTabs.flatMap (fun sub => panelBindings sub.panel)) := by
    rw [List.filterMap_flatMap]
    refine List.Perm.flatMap_left _ fun sub _ => ?_
    rw [subTabMarks, List.filterMap_append]
    show (_ ++ []).Perm _
    rw [List.append_nil]
    exact filterMap_panelMarks hheight sub.id sub.panel
  rw [tabMarks, tabBindings, List.filterMap_append, List.filterMap_append]
  show (_ ++ []).Perm _
  rw [List.append_nil]
  exact (filterMap_panelMarks hheight t.id t.panel).append hsubs

theorem filterMap_pageMarks {a : Application} (hheight : a.tabs ≠ [] → 1 ≤ height) :
    ((pageMarks height a).filterMap Mark.binding?).Perm (pageBindings a) := by
  have htabs : ((a.tabs.flatMap (tabMarks height)).filterMap Mark.binding?).Perm
      (a.tabs.flatMap tabBindings) := by
    rw [List.filterMap_flatMap]
    exact List.Perm.flatMap_left _ fun t ht =>
      filterMap_tabMarks (hheight (List.ne_nil_of_mem ht)) t
  have hlist : (listMarks a.list).filterMap Mark.binding? =
      a.list.filterMap (fun f => written f.dataattribute) ++ [keyAttribute a.list] := by
    rw [listMarks, List.filterMap_append, filterMap_columnMarks]
    rfl
  rw [pageMarks, pageBindings, List.filterMap_append, List.filterMap_append, hlist]
  show (_ ++ []).Perm _
  rw [List.append_nil]
  refine (htabs.append_left _).trans ?_
  rw [List.append_assoc]
  exact List.perm_append_comm

end Bindings

/-- The measures of a page with form tabs hold the height of columns that is set. -/
theorem columnHeight_of_read {s : Settings} {a : Application} {measures : Measures} {height : Int}
    (hread : Measures.read s a = .ok measures) (htabs : a.tabs ≠ [])
    (hheight : s.fieldsPerColumn = .ok height) : measures.columnHeight = height := by
  have hsome : ¬ a.tabs.isEmpty = true := by simpa using htabs
  rw [Measures.read] at hread
  obtain ⟨given, -, hread⟩ := bind_eq_ok.mp hread
  obtain ⟨list, -, hread⟩ := bind_eq_ok.mp hread
  rw [if_neg hsome, hheight, ok_bind] at hread
  obtain ⟨detail, -, hread⟩ := bind_eq_ok.mp hread
  obtain ⟨u, -, hread⟩ := bind_eq_ok.mp hread
  obtain rfl := Except.ok.inj hread
  rfl

/-- The page of a tree: every place holds the elements of its fields and nothing else is bound. -/
structure ShowsFields (height : Int) (a : Application) (page : Element) : Prop where
  places : IsPage (IsHeaderSection height) IsDetailTable IsListContent a page
  bindings : (page.values "dataattribute").Perm (pageBindings a)

theorem returns_showsFields {s : Settings} {d : Metadata} {c : TableEntries} {a : Application}
    {measures : Measures} {height : Int} (hread : Measures.read s a = .ok measures)
    (hheight : s.fieldsPerColumn = .ok height) (hpos : 1 ≤ height) :
    (pageElement s measures d c a).Returns (ShowsFields height a) := by
  have hcolumns : a.tabs ≠ [] → measures.columnHeight = height :=
    fun htabs => columnHeight_of_read hread htabs hheight
  have hplaces : (pageElement s measures d c a).Returns
      (IsPage (IsHeaderSection height) IsDetailTable IsListContent a) := by
    refine returns_pageElement (fun htabs id fields hne => ?_)
      (fun tab relationship rows fields => ?_) ?_
    · rw [hcolumns htabs]
      exact (returns_headerSection_tag id "" height fields).and
        (returns_headerSection hpos hne id "")
    · refine ((returns_detailTable_relationship tab relationship rows fields).and
        (returns_detailTable c tab relationship rows fields)).imp fun e he => ?_
      exact ⟨he.1.1, he.1.2, he.2⟩
    · refine ((returns_listTab_tag s measures d a.list).and
        (returns_listTab s measures d a.list)).imp fun e he => ?_
      exact ⟨he.1.1, he.1.2, he.2⟩
  intro src
  refine ⟨hplaces src, ?_⟩
  obtain ⟨n, -, hmarks⟩ := draws_pageElement (s := s) (m := measures) (d := d) (c := c) a src
  have hdrawn : ((src.upcoming n).map Mark.id).filterMap Mark.binding? = [] := by
    rw [List.filterMap_map]
    exact List.filterMap_eq_nil_iff.mpr fun id _ => rfl
  have hbindings := hmarks.filterMap Mark.binding?
  rw [Element.filterMap_binding_marks, List.filterMap_append, hdrawn, List.append_nil] at hbindings
  refine hbindings.trans (filterMap_pageMarks fun htabs => ?_)
  rw [hcolumns htabs]
  exact hpos

/-- **The page shows every field once, where it belongs.** The tree holds the fields of the rows in
their order. On its page a header section has a control for each header field, column by column; a
detail table has a column for each field that is no button and a button for each other one; the list
has a column for each field, between the one that selects a row and the one that bookmarks it. There
are no bindings but those of the fields and of the column that selects. The search dialog has a text
box for each field outside the detail tables by which the list can be filtered. -/
theorem showsFields_document {s : Settings} {height : Int}
    (hheight : s.fieldsPerColumn = .ok height) (hpos : 1 ≤ height) (m : Option Metadata)
    (labels : List (String × String)) (c : Option SubTabEntries) (rows : List Row) (src : IdSource)
    (d : Metadata) (entries : TableEntries) (dialogs : List DialogTemplate) :
    let grouped := (Application.ofRows s m labels c rows).run src
    grouped.1.InOrder (Application.fieldsOf s m c src rows) ∧
      (s.WellTyped → ∃ measures, Measures.read s grouped.1 = .ok measures) ∧
      ∀ measures, Measures.read s grouped.1 = .ok measures →
        (∃ page search rest,
          ((document s measures d entries dialogs grouped.1).run grouped.2).1.children =
            page :: search :: rest ∧ ShowsFields height grouped.1 page ∧
          IsSearchDialog
            (grouped.1.flatten.filter (fun f => f.filterable && f.area != .detail)) search) ∧
        ∃ page, ((plainDocument s measures d entries grouped.1).run grouped.2).1.children =
          [page] ∧ ShowsFields height grouped.1 page := by
  intro grouped
  have htree : grouped.1 =
      Application.ofFields s labels (c.getD []) (Application.fieldsOf s m c src rows) :=
    congrArg Prod.fst (Application.run_ofRows rows src)
  refine ⟨?_, fun hs => exists_measures hs grouped.1, fun measures hread => ?_⟩
  · rw [htree]
    exact Application.inOrder_ofFields
  · have hpage : (pageElement s measures d entries grouped.1).Returns
        (ShowsFields height grouped.1) := returns_showsFields hread hheight hpos
    refine ⟨⟨_, _, _, rfl, hpage _, ?_⟩, _, rfl, hpage _⟩
    have hfields : grouped.1.searchable.filter (·.filterable) =
        grouped.1.flatten.filter (fun f => f.filterable && f.area != .detail) := by
      rw [htree]
      exact Application.filter_searchable (·.filterable)
    rw [← hfields]
    exact returns_searchDialog _ _ _ _

/-- Two header fields of one column, and a button in a table. -/
theorem showsFields_document_button :
    let rows : List Row := [{ label := .text "Status", filterable := true },
      { label := .text "Owner", control := .checkbox },
      { label := .text "Send", area := .detail, relationship := .text "SRLINE",
        control := .pushButton }]
    let grouped := (Application.ofRows .builtin none [] none rows).run ⟨"1000", 0⟩
    ∃ measures, Measures.read .builtin grouped.1 = .ok measures ∧
      ∃ page, ((plainDocument .builtin measures {} [] grouped.1).run grouped.2).1.children =
        [page] ∧ ShowsFields 4 grouped.1 page := by
  intro rows grouped
  have hheight : Settings.builtin.fieldsPerColumn = .ok 4 := rfl
  obtain ⟨-, hread, hshown⟩ := showsFields_document hheight (by decide) none [] none rows
    ⟨"1000", 0⟩ {} [] []
  obtain ⟨measures, hmeasures⟩ := hread Settings.wellTyped_builtin
  exact ⟨measures, hmeasures, (hshown measures hmeasures).2⟩

end Page

end Formwork
