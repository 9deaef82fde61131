import Formwork.Proofs.Page.Columns
import Formwork.Proofs.Page.Placement

/-!
# What stands for a field

A field stands in a header as a control, in a table as a column or as a button below it, in the list
as a column, and in the search dialog as a text box. These are the elements that `Placement` leaves
open; they come field by field, in the order of the fields, those of a header column by column.
-/
namespace Formwork.Page

/-- The tag of the control of a field: its kind, where there are controls of that kind. -/
def controlTag (f : Field) : String :=
  if ["checkbox", "multilinetextbox", "multiparttextbox", "statictext", "pushbutton",
      "attachments"].contains f.control.word then f.control.word
  else "textbox"

/-- The binding of the control of a field. Buttons and attachments have none. -/
def controlBinding? (f : Field) : Option String :=
  if f.control.word = "pushbutton" ∨ f.control.word = "attachments" then none
  else written f.dataattribute

structure IsControl (f : Field) (e : Element) : Prop where
  tag : e.tag = controlTag f
  binding : e.attribute? "dataattribute" = controlBinding? f
  label : f.control.word ≠ "attachments" → e.attribute? "label" = written f.label.plain
  leaf : e.children = []

structure IsColumn (f : Field) (e : Element) : Prop where
  tag : e.tag = "tablecol"
  binding : e.attribute? "dataattribute" = written f.dataattribute
  label : e.attribute? "label" = written f.label.plain
  leaf : e.children = []

structure IsButton (f : Field) (e : Element) : Prop where
  tag : e.tag = "pushbutton"
  binding : e.attribute? "dataattribute" = none
  label : e.attribute? "label" = written f.label.plain
  event : e.attribute? "mxevent" = written f.mxevent.plain
  leaf : e.children = []

structure IsQueryBox (f : Field) (e : Element) : Prop where
  tag : e.tag = "textbox"
  mode : e.attribute? "inputmode" = some "query"
  binding : e.attribute? "dataattribute" = written f.dataattribute
  label : e.attribute? "label" = written f.label.plain
  leaf : e.children = []

/-- A column of a header section with the controls of its fields. -/
structure IsSectionColumn (fields : List Field) (e : Element) : Prop where
  tag : e.tag = "sectioncol"
  children : ∃ inner, e.children = [inner] ∧ inner.tag = "section" ∧
    List.Forall₂ IsControl fields inner.children

/-- One row of the columns of a header. -/
def IsHeaderSection (height : Int) (fields : List Field) (e : Element) : Prop :=
  ∃ row columns, e.children = [row] ∧ row.tag = "sectionrow" ∧ IsColumns height fields columns ∧
    List.Forall₂ IsSectionColumn columns row.children

structure IsButtonGroup (buttons : List Field) (e : Element) : Prop where
  tag : e.tag = "buttongroup"
  children : List.Forall₂ IsButton buttons e.children

/-- A body with the columns, and a group with the buttons if there are some. -/
def IsDetailTable (fields : List Field) (e : Element) : Prop :=
  ∃ body groups, e.children = body :: groups ∧ body.tag = "tablebody" ∧
    List.Forall₂ IsColumn (fields.filter (fun f => !f.isButton)) body.children ∧
    OneIf (∃ f ∈ fields, f.isButton = true)
      (IsButtonGroup (fields.filter Field.isButton)) groups

/-- The attribute by which a row of the list is selected: that of the first field. -/
def keyAttribute (fields : List Field) : String :=
  (fields.head?.map (·.dataattribute)).getD "ticketid"

/-- A table whose columns stand between the one that selects a row and the one that bookmarks it. -/
def IsListContent (fields : List Field) (e : Element) : Prop :=
  ∃ menubar table body columns, e.children = [menubar, table] ∧ menubar.tag = "menubar" ∧
    menubar.children = [] ∧ table.tag = "table" ∧ table.children = [body] ∧
    body.tag = "tablebody" ∧
    body.children = selectColumn "results_showlist_tablebody_1" (keyAttribute fields) ::
      columns ++ [bookmarkColumn] ∧
    List.Forall₂ IsColumn fields columns

/-- One column with a text box for each field, and the buttons that end the dialog. -/
structure IsSearchDialog (fields : List Field) (e : Element) : Prop where
  tag : e.tag = "dialog"
  children : ∃ body row column buttons, e.children = [body, buttons] ∧ body.children = [row] ∧
    row.children = [column] ∧ List.Forall₂ IsQueryBox fields column.children ∧
    buttons.tag = "buttongroup" ∧
    ∀ button ∈ buttons.children, button.tag = "pushbutton" ∧ button.children = []

section Build

theorem isControl_given {f : Field} {tag : String} {pairs : List (String × String)}
    (htag : tag = controlTag f) (hkeys : (pairs.map (·.1)).Nodup)
    (hbinding : (pairs.lookup "dataattribute").bind written = controlBinding? f)
    (hlabel : pairs.lookup "label" = some f.label.plain) :
    IsControl f (.node tag (givenAttributes pairs) []) where
  tag := htag
  binding := (Element.attribute?_given hkeys tag _ _).trans hbinding
  label := by
    intro _
    rw [Element.attribute?_given hkeys, hlabel]
    rfl
  leaf := rfl

theorem isControl_bound {f : Field} {tag : String} {pairs : List (String × String)}
    (hword : f.control.word = tag)
    (htag : tag ∈ ["checkbox", "multilinetextbox", "multiparttextbox", "statictext"])
    (hkeys : (pairs.map (·.1)).Nodup)
    (hbinding : pairs.lookup "dataattribute" = some f.dataattribute)
    (hlabel : pairs.lookup "label" = some f.label.plain) :
    IsControl f (.node tag (givenAttributes pairs) []) := by
  subst hword
  simp only [List.mem_cons, List.not_mem_nil, or_false] at htag
  refine isControl_given ?_ hkeys ?_ hlabel
  · rcases htag with h | h | h | h <;> simp [controlTag, h]
  · rw [hbinding, Option.bind_some, controlBinding?, if_neg]
    rcases htag with h | h | h | h <;> simp [h]

theorem attachments_of_id {f : Field} (h : f.id ≠ "") :
    attachments f = pure (.node "attachments" [("id", f.id)] []) := by
  have hid : (f.id == "") = false := beq_false_of_ne h
  rw [attachments, hid]
  rfl

theorem attachments_of_no_id {f : Field} (h : f.id = "") :
    attachments f = (do
      let id ← freshId
      pure (.node "attachments" [("id", id)] [])) := by
  rw [attachments, h]
  rfl

theorem returns_attachments (f : Field) :
    (attachments f).Returns (fun e => ∃ id, e = .node "attachments" [("id", id)] []) := by
  by_cases h : f.id = ""
  · rw [attachments_of_no_id h]
    exact Numbered.returns_freshId_bind fun id => Numbered.returns_pure ⟨id, rfl⟩
  · rw [attachments_of_id h]
    exact Numbered.returns_pure ⟨f.id, rfl⟩

theorem returns_control (f : Field) : (control f).Returns (IsControl f) := by
  rw [control]
  split
  · next h => exact fun src => isControl_bound h (by simp) (by simp) rfl rfl
  · next h => exact fun src => isControl_bound h (by simp) (by simp) rfl rfl
  · next h => exact fun src => isControl_bound h (by simp) (by simp) rfl rfl
  · next h => exact fun src => isControl_bound h (by simp) (by simp) rfl rfl
  · next h =>
    intro src
    refine isControl_given ?_ (by simp) ?_ rfl
    · simp [controlTag, h]
    · rw [controlBinding?, if_pos (Or.inl h)]
      rfl
  · next h =>
    refine (returns_attachments f).imp fun e he => ?_
    obtain ⟨id, rfl⟩ := he
    refine ⟨?_, ?_, fun hnot => absurd h hnot, rfl⟩
    · simp [controlTag, h, Element.tag]
    · rw [controlBinding?, if_pos (Or.inr h)]
      rfl
  · next hcheck hlines hparts hstatic hbutton hattached =>
    intro src
    refine isControl_given ?_ (by simp) ?_ rfl
    · rw [controlTag, if_neg]
      simp only [List.contains_eq_mem, List.mem_cons, List.not_mem_nil, or_false,
        decide_eq_true_eq]
      rintro (h | h | h | h | h | h)
      exacts [hcheck h, hlines h, hparts h, hstatic h, hbutton h, hattached h]
    · rw [controlBinding?, if_neg fun h => h.elim hbutton hattached]
      rfl

theorem returns_tableColumn (inList hyperlink : Bool) (f : Field) :
    (tableColumn inList hyperlink f).Returns (IsColumn f) := by
  intro src
  exact ⟨rfl, Element.attribute?_given (by simp) _ _ _, Element.attribute?_given (by simp) _ _ _,
    rfl⟩

theorem returns_button (isDefault : Bool) (f : Field) :
    (button isDefault f.label.plain f.mxevent.plain).Returns (IsButton f) := by
  intro src
  exact ⟨rfl, Element.attribute?_given (by simp) _ _ _, Element.attribute?_given (by simp) _ _ _,
    Element.attribute?_given (by simp) _ _ _, rfl⟩

theorem returns_queryBox (f : Field) : (textBox .query f).Returns (IsQueryBox f) := by
  intro src
  exact ⟨rfl, Element.attribute?_given (by simp) _ _ _, Element.attribute?_given (by simp) _ _ _,
    Element.attribute?_given (by simp) _ _ _, rfl⟩

theorem returns_sectionColumn (fields : List Field) :
    (sectionColumn fields).Returns (IsSectionColumn fields) := by
  rw [sectionColumn]
  apply Numbered.returns_freshId_bind
  intro columnId
  apply Numbered.returns_freshId_bind
  intro innerId
  refine (Numbered.returns_mapM fun f _ => returns_control f).bind fun controls hcontrols => ?_
  exact Numbered.returns_pure ⟨rfl, _, rfl, rfl, hcontrols⟩

theorem returns_headerSection {height : Int} {fields : List Field} (hheight : 1 ≤ height)
    (hne : fields ≠ []) (id relationship : String) :
    (headerSection id relationship height fields).Returns (IsHeaderSection height fields) := by
  rw [headerSection]
  apply Numbered.returns_freshId_bind
  intro rowId
  refine (Numbered.returns_mapM fun column _ => returns_sectionColumn column).bind
    fun elements helements => ?_
  exact Numbered.returns_pure ⟨_, _, rfl, rfl, isColumns_columns hheight hne, helements⟩

theorem returns_buttonGroup (buttons : List Field) :
    (buttonGroup buttons).Returns (IsButtonGroup buttons) := by
  rw [buttonGroup]
  apply Numbered.returns_freshId_bind
  intro id
  refine (Numbered.returns_mapM (R := fun p => IsButton p.1) fun p _ => returns_button _ p.1).bind
    fun elements helements => ?_
  refine Numbered.returns_pure ⟨rfl, ?_⟩
  have hmap := List.forall₂_map_left_iff.mpr helements
  rwa [List.zipIdx_map_fst] at hmap

theorem returns_buttonGroups (fields : List Field) :
    (buttonGroups (fields.filter Field.isButton)).Returns
      (OneIf (∃ f ∈ fields, f.isButton = true)
        (IsButtonGroup (fields.filter Field.isButton))) := by
  have hsome : (fields.filter Field.isButton).isEmpty = false ↔
      ∃ f ∈ fields, f.isButton = true := by
    simp [List.filter_eq_nil_iff]
  rw [buttonGroups]
  split
  · next h =>
    refine Numbered.returns_pure (Or.inr ⟨fun hnot => ?_, rfl⟩)
    rw [hsome.mpr hnot] at h
    cases h
  · next h =>
    refine (returns_buttonGroup _).bind fun group hgroup => ?_
    exact Numbered.returns_pure (Or.inl ⟨hsome.mp (Bool.eq_false_iff.mpr h), group, rfl, hgroup⟩)

theorem returns_detailTable (c : TableEntries) (tab relationship rows : String)
    (fields : List Field) :
    (detailTable c tab relationship rows fields).Returns (IsDetailTable fields) := by
  rw [detailTable_eq]
  apply Numbered.returns_freshId_bind
  intro tableId
  apply Numbered.returns_freshId_bind
  intro bodyId
  refine (Numbered.returns_mapM fun f _ => returns_tableColumn false true f).bind
    fun columns hcolumns => ?_
  refine (returns_buttonGroups fields).bind fun groups hgroups => ?_
  exact Numbered.returns_pure ⟨_, groups, rfl, rfl, hcolumns, hgroups⟩

theorem returns_listTab (s : Settings) (m : Measures) (d : Metadata) (fields : List Field) :
    (listTab s m d fields).Returns (IsListContent fields) := by
  have htable : (listTable d.recordName.plain d.orderBy.plain (toString m.listRows) fields).Returns
      (fun table => table.tag = "table" ∧ ∃ body columns, table.children = [body] ∧
        body.tag = "tablebody" ∧
        body.children = selectColumn "results_showlist_tablebody_1" (keyAttribute fields) ::
          columns ++ [bookmarkColumn] ∧
        List.Forall₂ IsColumn fields columns) := by
    rw [listTable]
    refine (Numbered.returns_mapM fun f _ => returns_tableColumn true false f).bind
      fun columns hcolumns => ?_
    exact Numbered.returns_pure ⟨rfl, _, columns, rfl, rfl, rfl, hcolumns⟩
  rw [listTab]
  refine htable.bind fun table htable => ?_
  obtain ⟨htag, body, columns, hbody⟩ := htable
  exact Numbered.returns_pure ⟨_, table, body, columns, rfl, rfl, rfl, htag, hbody⟩

theorem returns_searchDialog (label record : String) (fields : List Field) :
    (searchDialog label record fields).Returns
      (IsSearchDialog (fields.filter (·.filterable))) := by
  have hbody : (singleColumn ((fields.filter (·.filterable)).mapM (textBox .query))).Returns
      (fun body => ∃ row column, body.children = [row] ∧ row.children = [column] ∧
        List.Forall₂ IsQueryBox (fields.filter (·.filterable)) column.children) := by
    rw [singleColumn]
    apply Numbered.returns_freshId_bind
    intro sectionId
    apply Numbered.returns_freshId_bind
    intro rowId
    apply Numbered.returns_freshId_bind
    intro columnId
    refine (Numbered.returns_mapM fun f _ => returns_queryBox f).bind fun boxes hboxes => ?_
    exact Numbered.returns_pure ⟨_, _, rfl, rfl, hboxes⟩
  have hbuttons : (endingButtons "搜尋" "取消").Returns (fun e => e.tag = "buttongroup" ∧
      ∀ button ∈ e.children, button.tag = "pushbutton" ∧ button.children = []) := by
    intro src
    refine ⟨rfl, List.forall_mem_cons.mpr ⟨⟨rfl, rfl⟩, List.forall_mem_cons.mpr ⟨⟨rfl, rfl⟩, ?_⟩⟩⟩
    exact fun _ h => absurd h List.not_mem_nil
  rw [searchDialog]
  refine hbody.bind fun body hbody => hbuttons.bind fun buttons hbuttons => ?_
  obtain ⟨row, column, hrow, hcolumn, hboxes⟩ := hbody
  exact Numbered.returns_pure ⟨rfl, body, row, column, buttons, rfl, hrow, hcolumn, hboxes,
    hbuttons⟩

end Build

end Formwork.Page
