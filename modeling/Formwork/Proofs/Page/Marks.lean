import Formwork.Proofs.Page.Control

/-!
# The ids and the bindings of a page

The marks of an element are the ids and the bindings in it and below it. `Draws` says which marks
stand in what a computation returns: the ids that it draws, each once, and the marks that it is
given. What every part of a page is given is said here part by part, so that the marks of the whole
page are known up to their order.
-/
namespace Formwork

/-- An id or a binding. -/
inductive Mark where
  | id (id : String)
  | binding (name : String)
  deriving DecidableEq

namespace Mark

def id? : Mark → Option String
  | id s => some s
  | binding _ => none

def binding? : Mark → Option String
  | id _ => none
  | binding s => some s

end Mark

namespace Element

/-- The marks among attributes. -/
def ownMarks (attributes : List (String × String)) : List Mark :=
  (attributes.lookup "dataattribute").toList.map Mark.binding ++
    (attributes.lookup "id").toList.map Mark.id

/-- The marks of an element and of everything below it, in document order. -/
def marks (e : Element) : List Mark :=
  e.all.flatMap (fun e => ownMarks e.attributes)

theorem flatMap_allOf (es : List Element) :
    (allOf es).flatMap (fun e => ownMarks e.attributes) = es.flatMap marks := by
  induction es with
  | nil => rfl
  | cons e es ih => rw [allOf, List.flatMap_append, ih, List.flatMap_cons, marks]

theorem marks_node (tag : String) (attributes : List (String × String))
    (children : List Element) :
    (node tag attributes children).marks = ownMarks attributes ++ children.flatMap marks := by
  rw [marks, all, List.flatMap_cons, flatMap_allOf, Element.attributes]

theorem filterMap_marks {read : Mark → Option String} {name : String}
    (h : ∀ attributes, (ownMarks attributes).filterMap read = (attributes.lookup name).toList)
    (e : Element) : e.marks.filterMap read = e.values name := by
  rw [marks, values, List.filterMap_flatMap, List.filterMap_eq_flatMap_toList]
  exact List.flatMap_congr fun e _ => h e.attributes

theorem filterMap_id_marks (e : Element) : e.marks.filterMap Mark.id? = e.values "id" := by
  refine filterMap_marks (fun attributes => ?_) e
  rw [ownMarks]
  cases attributes.lookup "dataattribute" <;> cases attributes.lookup "id" <;> rfl

theorem filterMap_binding_marks (e : Element) :
    e.marks.filterMap Mark.binding? = e.values "dataattribute" := by
  refine filterMap_marks (fun attributes => ?_) e
  rw [ownMarks]
  cases attributes.lookup "dataattribute" <;> cases attributes.lookup "id" <;> rfl

theorem ownMarks_given {pairs : List (String × String)} (h : (pairs.map (·.1)).Nodup) :
    ownMarks (givenAttributes pairs) =
      ((pairs.lookup "dataattribute").bind written).toList.map Mark.binding ++
        ((pairs.lookup "id").bind written).toList.map Mark.id := by
  rw [ownMarks, lookup_givenAttributes h, lookup_givenAttributes h]

end Element

namespace Numbered

variable {α β : Type}

/-- A computation draws ids one after the other. The marks of the result are the ids that are drawn,
each once, and the given marks. -/
def Draws (x : Numbered α) (marks : α → List Mark) (given : List Mark) : Prop :=
  ∀ src, ∃ n, (x.run src).2 = { src with drawn := src.drawn + n } ∧
    (marks (x.run src).1).Perm (given ++ (src.upcoming n).map Mark.id)

variable {marks : α → List Mark} {given : List Mark}

theorem draws_pure {a : α} (h : (marks a).Perm given) : Draws (pure a) marks given := by
  intro src
  refine ⟨0, rfl, ?_⟩
  show (marks a).Perm (given ++ [])
  rwa [List.append_nil]

/-- The given marks are a queue: a step takes its own from the front, and what it returns joins the
end. -/
theorem Draws.bind {x : Numbered α} {f : α → Numbered β} {marks' : β → List Mark}
    {rest : List Mark} (hx : x.Draws marks given)
    (hf : ∀ a, (f a).Draws marks' (rest ++ marks a)) : (x >>= f).Draws marks' (given ++ rest) := by
  intro src
  obtain ⟨n, hdrawn, hmarks⟩ := hx src
  obtain ⟨k, hdrawn', hmarks'⟩ := hf (x.run src).1 (x.run src).2
  refine ⟨n + k, ?_, ?_⟩
  · rw [run_bind, hdrawn', hdrawn, Nat.add_assoc]
  · rw [run_bind, IdSource.upcoming_add, ← hdrawn, List.map_append]
    refine hmarks'.trans ?_
    rw [List.perm_iff_count] at hmarks ⊢
    intro mark
    have hmark := hmarks mark
    simp only [List.count_append] at hmark ⊢
    omega

/-- An id that is drawn joins the end. -/
theorem draws_freshId_bind {f : String → Numbered α}
    (hf : ∀ id, id ≠ "" → (f id).Draws marks (given ++ [Mark.id id])) :
    (freshId >>= f).Draws marks given := by
  intro src
  obtain ⟨k, hdrawn, hmarks⟩ :=
    hf (src.id (src.drawn + 1)) (src.id_ne_empty _) { src with drawn := src.drawn + 1 }
  refine ⟨1 + k, ?_, ?_⟩
  · rw [run_bind, ← Nat.add_assoc]
    exact hdrawn
  · rw [run_bind, IdSource.upcoming_add, List.map_append, ← List.append_assoc]
    exact hmarks

theorem draws_mapM {f : α → Numbered β} {marks : β → List Mark} {given : α → List Mark}
    {items : List α} (h : ∀ a ∈ items, (f a).Draws marks (given a)) :
    (items.mapM f).Draws (fun bs => bs.flatMap marks) (items.flatMap given) := by
  induction items with
  | nil => exact draws_pure (List.Perm.refl _)
  | cons a items ih =>
    have ih := ih fun b hb => h b (List.mem_cons_of_mem a hb)
    rw [List.mapM_cons, List.flatMap_cons]
    refine (h a List.mem_cons_self).bind fun b => ?_
    exact ih.bind fun bs => draws_pure (List.Perm.refl _)

end Numbered

namespace Page

/-- The marks of the control of a field, apart from an id that is drawn for it. -/
def controlMarks (f : Field) : List Mark :=
  if f.control.word = "attachments" then (written f.id).toList.map Mark.id
  else (controlBinding? f).toList.map Mark.binding

def columnMarks (f : Field) : List Mark :=
  (written f.dataattribute).toList.map Mark.binding

def headerMarks (height : Int) (id : String) (fields : List Field) : List Mark :=
  if fields.isEmpty then []
  else (columns height fields).flatMap (fun column => column.flatMap controlMarks) ++
    [Mark.id (id ++ "_grid")]

theorem flatMap_columns {β : Type} (f : Field → List β) (columns : List (List Field)) :
    columns.flatMap (fun column => column.flatMap f) = columns.flatten.flatMap f := by
  rw [← List.flatMap_id, List.flatMap_assoc]
  rfl

def tableMarks (fields : List Field) : List Mark :=
  (fields.filter (fun f => !f.isButton)).flatMap columnMarks

def panelMarks (height : Int) (id : String) (p : Panel) : List Mark :=
  headerMarks height id p.header ++ p.tables.flatMap (fun t => tableMarks t.2)

def subTabMarks (height : Int) (s : SubTab) : List Mark :=
  panelMarks height s.id s.panel ++ [Mark.id s.id]

def tabMarks (height : Int) (t : Tab) : List Mark :=
  panelMarks height t.id t.panel ++ t.subTabs.flatMap (subTabMarks height) ++ [Mark.id t.id]

def listMarks (fields : List Field) : List Mark :=
  fields.flatMap columnMarks ++ Mark.binding (keyAttribute fields) ::
    ["results_showlist", "results_showlist_tablebody", "results_showlist_tablebody_1",
      "results_bookmark", "results", "actiontoolbar"].map Mark.id

def pageMarks (height : Int) (a : Application) : List Mark :=
  listMarks a.list ++ a.tabs.flatMap (tabMarks height) ++
    ["maintabs", "mainrec", "INCLUDE-pageHeader", "clientarea", "INCLUDE-pageFooter"].map Mark.id

def searchMarks (fields : List Field) : List Mark :=
  fields.flatMap columnMarks ++ [Mark.id "searchmore"]

section Build

variable {s : Settings} {m : Measures} {d : Metadata} {c : TableEntries}

/-- An element under an id that is drawn for it. -/
theorem draws_given {tag : String} {pairs : String → List (String × String)}
    {name : Option String} (hkeys : ∀ id, ((pairs id).map (·.1)).Nodup)
    (hid : ∀ id, (pairs id).lookup "id" = some id)
    (hname : ∀ id, ((pairs id).lookup "dataattribute").bind written = name) :
    (freshId >>= fun id => pure (Element.node tag (givenAttributes (pairs id)) [])).Draws
      Element.marks (name.toList.map Mark.binding) := by
  apply Numbered.draws_freshId_bind
  intro id hne
  apply Numbered.draws_pure
  rw [Element.marks_node, Element.ownMarks_given (hkeys id), hid, hname, Option.bind_some,
    written_of_ne_empty hne, List.flatMap_nil, List.append_nil]
  exact List.Perm.refl _

theorem draws_attachments (f : Field) :
    (attachments f).Draws Element.marks ((written f.id).toList.map Mark.id) := by
  by_cases h : f.id = ""
  · rw [attachments_of_no_id h, h]
    apply Numbered.draws_freshId_bind
    intro id _
    apply Numbered.draws_pure
    rw [Element.marks_node]
    exact List.Perm.refl _
  · rw [attachments_of_id h, written_of_ne_empty h]
    apply Numbered.draws_pure
    rw [Element.marks_node]
    exact List.Perm.refl _

theorem controlMarks_of_bound {f : Field} (hbutton : f.control.word ≠ "pushbutton")
    (hattached : f.control.word ≠ "attachments") : controlMarks f = columnMarks f := by
  rw [controlMarks, if_neg hattached, controlBinding?, if_neg fun h => h.elim hbutton hattached]
  rfl

theorem draws_control (f : Field) : (control f).Draws Element.marks (controlMarks f) := by
  rw [control]
  split
  · next h =>
    rw [controlMarks_of_bound (by simp [h]) (by simp [h]), checkBox]
    exact draws_given (by simp) (fun _ => rfl) (fun _ => rfl)
  · next h =>
    rw [controlMarks_of_bound (by simp [h]) (by simp [h]), multilineTextBox]
    exact draws_given (by simp) (fun _ => rfl) (fun _ => rfl)
  · next h =>
    rw [controlMarks_of_bound (by simp [h]) (by simp [h]), multipartTextBox]
    exact draws_given (by simp) (fun _ => rfl) (fun _ => rfl)
  · next h =>
    rw [controlMarks_of_bound (by simp [h]) (by simp [h]), staticText]
    exact draws_given (by simp) (fun _ => rfl) (fun _ => rfl)
  · next h =>
    rw [controlMarks, if_neg (by simp [h]), controlBinding?, if_pos (Or.inl h), button]
    exact draws_given (by simp) (fun _ => rfl) (fun _ => rfl)
  · next h =>
    rw [controlMarks, if_pos h]
    exact draws_attachments f
  · next hbutton hattached =>
    rw [controlMarks_of_bound hbutton hattached, textBox]
    exact draws_given (by simp) (fun _ => rfl) (fun _ => rfl)

theorem draws_tableColumn (inList hyperlink : Bool) (f : Field) :
    (tableColumn inList hyperlink f).Draws Element.marks (columnMarks f) := by
  rw [tableColumn]
  exact draws_given (by simp) (fun _ => rfl) (fun _ => rfl)

theorem draws_button (isDefault : Bool) (label event : String) :
    (button isDefault label event).Draws Element.marks [] := by
  rw [button]
  show Numbered.Draws _ _ ((none : Option String).toList.map Mark.binding)
  exact draws_given (by simp) (fun _ => rfl) (fun _ => rfl)

theorem draws_queryBox (f : Field) :
    (textBox .query f).Draws Element.marks (columnMarks f) := by
  rw [textBox]
  exact draws_given (by simp) (fun _ => rfl) (fun _ => rfl)

theorem draws_sectionColumn (fields : List Field) :
    (sectionColumn fields).Draws Element.marks (fields.flatMap controlMarks) := by
  rw [sectionColumn]
  apply Numbered.draws_freshId_bind
  intro columnId _
  apply Numbered.draws_freshId_bind
  intro innerId _
  rw [List.append_assoc]
  refine (Numbered.draws_mapM fun f _ => draws_control f).bind fun controls => ?_
  apply Numbered.draws_pure
  simp only [Element.marks_node, List.flatMap_cons, List.flatMap_nil, List.append_nil]
  exact List.Perm.refl _

theorem draws_headerSection {id : String} (hid : id ≠ "") (height : Int) (fields : List Field) :
    (headerSection id "" height fields).Draws Element.marks
      ((columns height fields).flatMap (fun column => column.flatMap controlMarks) ++
        [Mark.id id]) := by
  rw [headerSection]
  apply Numbered.draws_freshId_bind
  intro rowId _
  rw [List.append_assoc]
  refine (Numbered.draws_mapM fun column _ => draws_sectionColumn column).bind fun elements => ?_
  apply Numbered.draws_pure
  simp only [Element.marks_node, List.flatMap_cons, List.flatMap_nil, List.append_nil]
  rw [Element.ownMarks_given (by simp)]
  show ((written id).toList.map Mark.id ++ ([Mark.id rowId] ++ _)).Perm _
  rw [written_of_ne_empty hid]
  exact List.Perm.refl _

theorem draws_panelHeader (id : String) (fields : List Field) :
    (panelHeader m id fields).Draws (fun es => es.flatMap Element.marks)
      (headerMarks m.columnHeight id fields) := by
  rw [panelHeader, headerMarks]
  split
  · exact Numbered.draws_pure (List.Perm.refl _)
  · have hid : id ++ "_grid" ≠ "" := by
      intro h
      have hright := (String.append_eq_empty_iff.mp h).2
      revert hright
      decide
    rw [← List.append_nil (_ ++ _)]
    refine (draws_headerSection hid _ _).bind fun e => ?_
    apply Numbered.draws_pure
    simp

theorem draws_buttonGroups (buttons : List Field) :
    (buttonGroups buttons).Draws (fun es => es.flatMap Element.marks) [] := by
  rw [buttonGroups]
  split
  · exact Numbered.draws_pure (List.Perm.refl _)
  · have hgroup : (buttonGroup buttons).Draws Element.marks [] := by
      rw [buttonGroup]
      apply Numbered.draws_freshId_bind
      intro id _
      have hnone : [] ++ [Mark.id id] = buttons.zipIdx.flatMap (fun _ => []) ++ [Mark.id id] := by
        rw [List.flatMap_eq_nil_iff.mpr fun _ _ => rfl]
      rw [hnone]
      refine (Numbered.draws_mapM fun p _ => draws_button _ _ _).bind fun elements => ?_
      apply Numbered.draws_pure
      rw [Element.marks_node]
      exact List.Perm.refl _
    refine hgroup.bind fun group => Numbered.draws_pure ?_
    rw [List.flatMap_singleton, List.nil_append]

theorem draws_detailTable (tab relationship rows : String) (fields : List Field) :
    (detailTable c tab relationship rows fields).Draws Element.marks (tableMarks fields) := by
  rw [detailTable_eq]
  apply Numbered.draws_freshId_bind
  intro tableId htable
  apply Numbered.draws_freshId_bind
  intro bodyId _
  rw [tableMarks, List.append_assoc]
  refine (Numbered.draws_mapM fun f _ => draws_tableColumn false true f).bind fun columns => ?_
  rw [← List.nil_append (_ ++ _)]
  refine (draws_buttonGroups _).bind fun groups => Numbered.draws_pure ?_
  rw [Element.marks_node, Element.ownMarks_given (by simp), List.flatMap_cons, Element.marks_node]
  show ((written tableId).toList.map Mark.id ++ (([Mark.id bodyId] ++ _) ++ _)).Perm _
  rw [written_of_ne_empty htable]
  simp

theorem draws_panelTables (tab : String) (p : Panel) :
    (panelTables m c tab p).Draws (fun es => es.flatMap Element.marks)
      (p.tables.flatMap (fun t => tableMarks t.2)) :=
  Numbered.draws_mapM fun t _ => draws_detailTable tab t.1 _ t.2

theorem draws_subTabElement (tab : String) (sub : SubTab) :
    (subTabElement m c tab sub).Draws Element.marks (subTabMarks m.columnHeight sub) := by
  rw [subTabElement, subTabMarks, panelMarks, List.append_assoc]
  refine (draws_panelHeader _ _).bind fun header => ?_
  rw [List.append_assoc]
  refine (draws_panelTables tab _).bind fun tables => Numbered.draws_pure ?_
  rw [Element.marks_node]
  show ([Mark.id sub.id] ++ _).Perm _
  simp

theorem draws_primaryTab (t : Tab) :
    (primaryTab m c t).Draws (fun es => es.flatMap Element.marks)
      (t.panel.tables.flatMap (fun t => tableMarks t.2)) := by
  rw [primaryTab]
  split
  · next hempty =>
    rw [List.isEmpty_iff.mp hempty]
    exact Numbered.draws_pure (List.Perm.refl _)
  · apply Numbered.draws_freshId_bind
    intro id _
    refine (draws_panelTables t.label _).bind fun tables => Numbered.draws_pure ?_
    rw [List.flatMap_singleton, Element.marks_node]
    exact List.Perm.refl _

theorem draws_innerGroup (t : Tab) :
    (innerGroup m c t).Draws (fun es => es.flatMap Element.marks)
      (t.panel.tables.flatMap (fun t => tableMarks t.2) ++
        t.subTabs.flatMap (subTabMarks m.columnHeight)) := by
  rw [innerGroup]
  split
  · apply Numbered.draws_freshId_bind
    intro id _
    rw [List.append_assoc]
    refine (draws_primaryTab t).bind fun primary => ?_
    rw [List.append_assoc]
    refine (Numbered.draws_mapM fun sub _ => draws_subTabElement t.label sub).bind fun subs => ?_
    apply Numbered.draws_pure
    rw [List.flatMap_singleton, Element.marks_node, List.flatMap_append]
    exact List.Perm.refl _
  · next hneeds =>
    simp only [Tab.needsGroup, Bool.or_eq_true, Bool.not_eq_true', List.isEmpty_eq_false_iff,
      not_or, ne_eq, not_not] at hneeds
    rw [hneeds.1, hneeds.2]
    exact Numbered.draws_pure (List.Perm.refl _)

theorem draws_formTab (t : Tab) :
    (formTab m c t).Draws Element.marks (tabMarks m.columnHeight t) := by
  rw [formTab, tabMarks, panelMarks, List.append_assoc, List.append_assoc]
  refine (draws_panelHeader _ _).bind fun header => ?_
  rw [← List.append_assoc, List.append_assoc]
  refine (draws_innerGroup t).bind fun group => Numbered.draws_pure ?_
  rw [Element.marks_node]
  show ([Mark.id t.id] ++ _).Perm _
  simp

theorem draws_listTable (record orderBy rows : String) (fields : List Field) :
    (listTable record orderBy rows fields).Draws Element.marks
      (fields.flatMap columnMarks ++ Mark.binding (keyAttribute fields) ::
        ["results_showlist", "results_showlist_tablebody", "results_showlist_tablebody_1",
          "results_bookmark"].map Mark.id) := by
  rw [listTable]
  refine (Numbered.draws_mapM fun f _ => draws_tableColumn true false f).bind fun columns => ?_
  apply Numbered.draws_pure
  rw [Element.marks_node, Element.ownMarks_given (by simp), List.flatMap_singleton,
    Element.marks_node, List.flatMap_append, List.flatMap_cons, List.flatMap_singleton,
    selectColumn, bookmarkColumn, Element.marks_node, Element.marks_node]
  show ([Mark.id "results_showlist"] ++ ([Mark.id "results_showlist_tablebody"] ++
    (([Mark.binding (keyAttribute fields), Mark.id "results_showlist_tablebody_1"] ++ _) ++
      [Mark.id "results_bookmark"]))).Perm _
  rw [List.perm_iff_count]
  intro mark
  simp only [List.map_cons, List.map_nil, List.count_append, List.count_cons, List.count_nil]
  omega

theorem draws_listTab (fields : List Field) :
    (listTab s m d fields).Draws Element.marks (listMarks fields) := by
  have hmarks : listMarks fields = (fields.flatMap columnMarks ++
      Mark.binding (keyAttribute fields) :: ["results_showlist", "results_showlist_tablebody",
        "results_showlist_tablebody_1", "results_bookmark"].map Mark.id) ++
      ["results", "actiontoolbar"].map Mark.id := by
    simp [listMarks]
  rw [listTab, hmarks]
  refine (draws_listTable _ _ _ fields).bind fun table => Numbered.draws_pure ?_
  rw [Element.marks_node, List.flatMap_cons, Element.marks_node, List.flatMap_singleton]
  exact List.Perm.refl _

theorem draws_pageElement (a : Application) :
    (pageElement s m d c a).Draws Element.marks (pageMarks m.columnHeight a) := by
  have hgroup : (mainGroup s m d c a).Draws Element.marks
      (listMarks a.list ++ a.tabs.flatMap (tabMarks m.columnHeight) ++ [Mark.id "maintabs"]) := by
    rw [mainGroup, List.append_assoc]
    refine (draws_listTab a.list).bind fun first => ?_
    rw [List.append_assoc]
    refine (Numbered.draws_mapM fun t _ => draws_formTab t).bind fun forms => ?_
    apply Numbered.draws_pure
    rw [Element.marks_node, List.flatMap_cons]
    exact List.Perm.refl _
  have hmarks : pageMarks m.columnHeight a = (listMarks a.list ++
      a.tabs.flatMap (tabMarks m.columnHeight) ++ [Mark.id "maintabs"]) ++
      ["mainrec", "INCLUDE-pageHeader", "clientarea", "INCLUDE-pageFooter"].map Mark.id := by
    simp [pageMarks]
  rw [pageElement, hmarks]
  refine hgroup.bind fun group => Numbered.draws_pure ?_
  simp only [Element.marks_node, List.flatMap_cons, List.flatMap_nil, List.append_nil]
  show ([Mark.id "mainrec"] ++ ([Mark.id "INCLUDE-pageHeader"] ++
    (([Mark.id "clientarea"] ++ group.marks) ++ [Mark.id "INCLUDE-pageFooter"]))).Perm _
  rw [List.perm_iff_count]
  intro mark
  simp only [List.map_cons, List.map_nil, List.count_append, List.count_cons, List.count_nil]
  omega

theorem draws_searchDialog (label record : String) (fields : List Field) :
    (searchDialog label record fields).Draws Element.marks
      (searchMarks (fields.filter (·.filterable))) := by
  have hbody : (singleColumn ((fields.filter (·.filterable)).mapM (textBox .query))).Draws
      Element.marks ((fields.filter (·.filterable)).flatMap columnMarks) := by
    rw [singleColumn]
    apply Numbered.draws_freshId_bind
    intro sectionId _
    apply Numbered.draws_freshId_bind
    intro rowId _
    apply Numbered.draws_freshId_bind
    intro columnId _
    rw [List.append_assoc, List.append_assoc]
    refine (Numbered.draws_mapM fun f _ => draws_queryBox f).bind fun boxes => ?_
    apply Numbered.draws_pure
    simp only [Element.marks_node, List.flatMap_cons, List.flatMap_nil, List.append_nil]
    exact List.Perm.refl _
  have hbuttons : (endingButtons "搜尋" "取消").Draws Element.marks [] := by
    rw [endingButtons]
    apply Numbered.draws_freshId_bind
    intro groupId _
    refine (draws_button _ _ _).bind fun first => ?_
    refine (draws_button _ _ _).bind fun second => Numbered.draws_pure ?_
    simp only [Element.marks_node, List.flatMap_cons, List.flatMap_nil, List.append_nil]
    exact List.Perm.refl _
  rw [searchDialog, searchMarks]
  refine hbody.bind fun body => ?_
  refine hbuttons.bind fun buttons => Numbered.draws_pure ?_
  simp only [Element.marks_node, List.flatMap_cons, List.flatMap_nil, List.append_nil]
  exact List.Perm.refl _

end Build

end Page

end Formwork
