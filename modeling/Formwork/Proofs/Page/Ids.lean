import Formwork.Proofs.Application.Buckets
import Formwork.Proofs.Page.Marks

/-!
# The ids of a document

The ids below the root are fixed ones, those that the names of tabs and sub-tabs give, and those
that were drawn, for attachments when rows were grouped and for everything else when the page was
made. Ids of one kind never meet ids of another kind, and ids that are drawn never meet each other.
So an id stands twice in a page only where names give it twice.
-/
namespace Formwork

/-- The ids of tabs and sub-tabs are those that their names give. -/
def Application.TakesIds (a : Application) : Prop :=
  ∀ t ∈ a.tabs, t.id = tabId t.label ∧ ∀ sub ∈ t.subTabs, sub.id = subTabId t.label sub.label

theorem Application.takesIds_ofFields (s : Settings) (labels : List (String × String))
    (c : SubTabEntries) (fields : List Field) : (ofFields s labels c fields).TakesIds := by
  intro t ht
  rw [ofFields_eq] at ht
  obtain ⟨name, -, rfl⟩ := List.mem_map.mp ht
  rw [tabOf, Tab.ofFields_eq]
  refine ⟨rfl, fun sub hsub => ?_⟩
  obtain ⟨sub, -, rfl⟩ := List.mem_map.mp hsub
  rfl

namespace Page

def fixedIds : List String :=
  ["results_showlist", "results_showlist_tablebody", "results_showlist_tablebody_1",
    "results_bookmark", "results", "actiontoolbar", "maintabs", "mainrec", "INCLUDE-pageHeader",
    "clientarea", "INCLUDE-pageFooter", "searchmore"]

/-- The ids of a place with an id: that of its header section, if it has one, and its own. -/
def placeIds (id : String) (p : Panel) : List String :=
  (if p.header.isEmpty then [] else [id ++ "_grid"]) ++ [id]

/-- The ids that the names of tabs and sub-tabs give. -/
def nameIds (a : Application) : List String :=
  a.tabs.flatMap (fun t => placeIds (tabId t.label) t.panel ++
    t.subTabs.flatMap (fun sub => placeIds (subTabId t.label sub.label) sub.panel))

/-- The id that the control of a field takes from it. -/
def takenId? (f : Field) : Option String :=
  if f.control.word = "attachments" then written f.id else none

/-- The ids that the controls of a header take from its fields. -/
def takenIds (height : Int) (p : Panel) : List String :=
  (columns height p.header).flatten.filterMap takenId?

def tabTakenIds (height : Int) (t : Tab) : List String :=
  takenIds height t.panel ++ t.subTabs.flatMap (fun sub => takenIds height sub.panel)

section Given

variable {height : Int}

theorem filterMap_id_columnMarks (fields : List Field) :
    (fields.flatMap columnMarks).filterMap Mark.id? = [] := by
  rw [List.filterMap_flatMap, List.flatMap_eq_nil_iff]
  intro f _
  rw [columnMarks]
  cases written f.dataattribute <;> rfl

theorem filterMap_id_controlMarks (fields : List Field) :
    (fields.flatMap controlMarks).filterMap Mark.id? = fields.filterMap takenId? := by
  rw [List.filterMap_flatMap, List.filterMap_eq_flatMap_toList]
  refine List.flatMap_congr fun f _ => ?_
  rw [controlMarks, takenId?]
  split
  · cases written f.id <;> rfl
  · cases controlBinding? f <;> rfl

/-- The ids of a place are those that it takes from fields and those that its own id gives. -/
theorem filterMap_id_panelMarks (id : String) (p : Panel) :
    (panelMarks height id p).filterMap Mark.id? ++ [id] =
      takenIds height p ++ placeIds id p := by
  have htables : (p.tables.flatMap (fun t => tableMarks t.2)).filterMap Mark.id? = [] := by
    rw [List.filterMap_flatMap, List.flatMap_eq_nil_iff]
    exact fun t _ => filterMap_id_columnMarks _
  rw [panelMarks, List.filterMap_append, htables, List.append_nil, headerMarks, takenIds, placeIds]
  split
  · next hempty =>
    have hnil : (columns height p.header).flatten = [] := by
      rw [List.isEmpty_iff.mp hempty]
      exact List.subperm_nil.mp (flatten_columns_subperm height [])
    rw [hnil]
    rfl
  · rw [List.filterMap_append, flatMap_columns, filterMap_id_controlMarks, List.append_assoc]
    rfl

theorem filterMap_id_tabMarks {t : Tab} (hid : t.id = tabId t.label)
    (hsubs : ∀ sub ∈ t.subTabs, sub.id = subTabId t.label sub.label) :
    ((tabMarks height t).filterMap Mark.id?).Perm
      ((placeIds (tabId t.label) t.panel ++
        t.subTabs.flatMap (fun sub => placeIds (subTabId t.label sub.label) sub.panel)) ++
          tabTakenIds height t) := by
  have hsubTabs : (t.subTabs.flatMap (subTabMarks height)).filterMap Mark.id? =
      t.subTabs.flatMap (fun sub => takenIds height sub.panel ++
        placeIds (subTabId t.label sub.label) sub.panel) := by
    rw [List.filterMap_flatMap]
    refine List.flatMap_congr fun sub hsub => ?_
    rw [subTabMarks, List.filterMap_append, ← hsubs sub hsub]
    exact filterMap_id_panelMarks sub.id sub.panel
  have hown : (panelMarks height t.id t.panel).filterMap Mark.id? ++ [t.id] =
      takenIds height t.panel ++ placeIds (tabId t.label) t.panel := by
    rw [filterMap_id_panelMarks, hid]
  have hsplit := List.flatMap_append_perm t.subTabs (fun sub => takenIds height sub.panel)
    (fun sub => placeIds (subTabId t.label sub.label) sub.panel)
  rw [tabMarks, tabTakenIds, List.filterMap_append, List.filterMap_append, hsubTabs]
  rw [List.perm_iff_count] at hsplit ⊢
  intro id
  have hownCount := congrArg (List.count id) hown
  have hsubCount := hsplit id
  have hlast : [Mark.id t.id].filterMap Mark.id? = [t.id] := rfl
  simp only [List.count_append, hlast] at hownCount hsubCount ⊢
  omega

/-- The ids below the root that are not drawn for the page. -/
theorem filterMap_id_pageMarks {a : Application} (ha : a.TakesIds) (shown : List Field) :
    ((pageMarks height a ++ searchMarks shown).filterMap Mark.id?).Perm
      (nameIds a ++ (fixedIds ++ a.tabs.flatMap (tabTakenIds height))) := by
  have htabs : ((a.tabs.flatMap (tabMarks height)).filterMap Mark.id?).Perm
      (nameIds a ++ a.tabs.flatMap (tabTakenIds height)) := by
    rw [List.filterMap_flatMap]
    refine (List.Perm.flatMap_left _ fun t ht => ?_).trans
      (List.flatMap_append_perm a.tabs _ (tabTakenIds height)).symm
    exact filterMap_id_tabMarks (ha t ht).1 (ha t ht).2
  have hlist : (listMarks a.list).filterMap Mark.id? = fixedIds.take 6 := by
    rw [listMarks, List.filterMap_append, filterMap_id_columnMarks]
    rfl
  have hsearch : (searchMarks shown).filterMap Mark.id? = ["searchmore"] := by
    rw [searchMarks, List.filterMap_append, filterMap_id_columnMarks]
    rfl
  rw [pageMarks, List.filterMap_append, List.filterMap_append, List.filterMap_append, hlist,
    hsearch]
  rw [List.perm_iff_count] at htabs ⊢
  intro id
  have htabCount := htabs id
  have hfixed : fixedIds = fixedIds.take 6 ++ (["maintabs", "mainrec", "INCLUDE-pageHeader",
    "clientarea", "INCLUDE-pageFooter"].map Mark.id).filterMap Mark.id? ++ ["searchmore"] := rfl
  have hcount := congrArg (List.count id) hfixed
  simp only [List.count_append] at htabCount hcount ⊢
  omega

theorem subperm_append {α : Type} {k k' l l' : List α} (hk : k.Subperm k') (hl : l.Subperm l') :
    (k ++ l).Subperm (k' ++ l') :=
  ((List.subperm_append_right l).mpr hk).trans ((List.subperm_append_left k').mpr hl)

theorem subperm_flatMap {α β : Type} {f g : α → List β} {l : List α}
    (h : ∀ a ∈ l, (f a).Subperm (g a)) : (l.flatMap f).Subperm (l.flatMap g) := by
  induction l with
  | nil => exact List.nil_subperm
  | cons a l ih =>
    have ih := ih fun b hb => h b (List.mem_cons_of_mem a hb)
    exact subperm_append (h a List.mem_cons_self) ih

theorem filterMap_takenId_sublist (fields : List Field) :
    (fields.filterMap takenId?).Sublist (fields.map (·.id)) := by
  induction fields with
  | nil => exact List.Sublist.slnil
  | cons f fields ih =>
    rw [List.map_cons, List.filterMap_cons]
    split
    · exact ih.cons f.id
    · next id hid =>
      have hown : id = f.id := by
        rw [takenId?, written] at hid
        split at hid
        · split at hid
          · cases hid
          · exact (Option.some.inj hid).symm
        · cases hid
      rw [hown]
      exact ih.cons_cons f.id

theorem takenIds_subperm (p : Panel) : (takenIds height p).Subperm (p.fields.map (·.id)) := by
  have hheader : (p.header.map (·.id)).Subperm (p.fields.map (·.id)) :=
    ((List.sublist_append_left _ _).map _).subperm
  obtain ⟨shown, hperm, hshown⟩ := flatten_columns_subperm height p.header
  have hcolumns : ((columns height p.header).flatten.map (·.id)).Subperm (p.header.map (·.id)) :=
    ⟨shown.map (·.id), hperm.map _, hshown.map _⟩
  exact (filterMap_takenId_sublist _).subperm.trans (hcolumns.trans hheader)

theorem tabTakenIds_subperm (t : Tab) :
    (tabTakenIds height t).Subperm (t.fields.map (·.id)) := by
  rw [tabTakenIds, Tab.fields, List.map_append, List.map_flatMap]
  exact subperm_append (takenIds_subperm t.panel)
    (subperm_flatMap fun sub _ => takenIds_subperm sub.panel)

/-- No field gives its id twice. -/
theorem takenIds_tree_subperm (a : Application) :
    (a.tabs.flatMap (tabTakenIds height)).Subperm (a.flatten.map (·.id)) := by
  rw [Application.flatten, List.map_append, List.map_flatMap]
  have htabs : (a.tabs.flatMap (tabTakenIds height)).Subperm
      (a.tabs.flatMap (fun t => t.fields.map (·.id))) :=
    subperm_flatMap fun t _ => tabTakenIds_subperm t
  exact htabs.trans (List.sublist_append_left _ _).subperm

end Given

theorem draws_document {s : Settings} {m : Measures} {d : Metadata} {c : TableEntries}
    (a : Application) :
    (document s m d c [] a).Draws (fun root => root.children.flatMap Element.marks)
      (pageMarks m.columnHeight a ++ searchMarks (a.searchable.filter (·.filterable))) := by
  rw [document]
  refine (draws_pageElement a).bind fun page => ?_
  rw [← List.append_nil (searchMarks _), List.append_assoc]
  refine (draws_searchDialog _ _ _).bind fun search => ?_
  exact Numbered.draws_pure (by simp [presentation, Element.children])

/-- A text that begins as the ids of tabs and sub-tabs do. -/
def BeginsAsName (cs : List Char) : Prop :=
  "tab_".toList <+: cs ∨ "subtab_".toList <+: cs

theorem beginsAsName_of_mem_nameIds {a : Application} {id : String} (h : id ∈ nameIds a) :
    BeginsAsName id.toList := by
  have hplace : ∀ {place : String} {p : Panel}, BeginsAsName place.toList →
      ∀ id ∈ placeIds place p, BeginsAsName id.toList := by
    intro place p hplace id hid
    have hcases : id = place ++ "_grid" ∨ id = place := by
      rw [placeIds] at hid
      split at hid
      · exact Or.inr (List.mem_singleton.mp hid)
      · simpa using hid
    obtain rfl | rfl := hcases
    · rw [String.toList_append]
      exact hplace.imp (fun h => h.trans (List.prefix_append _ _))
        (fun h => h.trans (List.prefix_append _ _))
    · exact hplace
  obtain ⟨t, -, hid⟩ := List.mem_flatMap.mp h
  rcases List.mem_append.mp hid with hid | hid
  · refine hplace (Or.inl ?_) id hid
    rw [tabId, String.toList_append]
    exact List.prefix_append _ _
  · obtain ⟨sub, -, hid⟩ := List.mem_flatMap.mp hid
    refine hplace (Or.inr ?_) id hid
    rw [subTabId, String.toList_append]
    exact List.prefix_append _ _

theorem not_beginsAsName_of_beginsAsNumber {cs : List Char} (h : BeginsAsNumber cs) :
    ¬ BeginsAsName cs := by
  obtain ⟨c, hc, hhead⟩ := h
  rintro (⟨rest, rfl⟩ | ⟨rest, rfl⟩)
  · obtain rfl := Option.some.inj hhead
    revert hc
    decide
  · obtain rfl := Option.some.inj hhead
    revert hc
    decide

theorem not_beginsAsName_of_mem_fixedIds {id : String} (h : id ∈ fixedIds) :
    ¬ BeginsAsName id.toList := by
  have hfixed : ∀ id ∈ fixedIds, ¬ ("tab_".toList.isPrefixOf id.toList ||
      "subtab_".toList.isPrefixOf id.toList) = true := by decide
  have hid := hfixed id h
  rwa [Bool.or_eq_true, List.isPrefixOf_iff_prefix, List.isPrefixOf_iff_prefix] at hid

theorem not_beginsAsNumber_of_mem_fixedIds {id : String} (h : id ∈ fixedIds) :
    ¬ BeginsAsNumber id.toList := by
  have hfixed : ∀ id ∈ fixedIds, id.toList.head? ∉ numberHeads.map some := by decide
  rintro ⟨c, hc, hhead⟩
  apply hfixed id h
  rw [hhead]
  exact List.mem_map_of_mem hc

/-- The ids below the root are those that names give, and others, each once and none like those. -/
theorem exists_otherIds {src : IdSource} (hbase : src.HasNumberBase) (s : Settings)
    (m : Option Metadata) (labels : List (String × String)) (c : Option SubTabEntries)
    (rows : List Row) (measures : Measures) (d : Metadata) (entries : TableEntries) :
    let grouped := (Application.ofRows s m labels c rows).run src
    let root := ((document s measures d entries [] grouped.1).run grouped.2).1
    ∃ others, (root.children.flatMap (Element.values "id")).Perm (nameIds grouped.1 ++ others) ∧
      others.Nodup ∧ ∀ id ∈ others, id ≠ "" ∧ ¬ BeginsAsName id.toList := by
  intro grouped root
  obtain ⟨n, -, hmarks⟩ :=
    draws_document (s := s) (m := measures) (d := d) (c := entries) grouped.1 grouped.2
  have htree : grouped.1 =
      Application.ofFields s labels (c.getD []) (Application.fieldsOf s m c src rows) :=
    congrArg Prod.fst (Application.run_ofRows rows src)
  have hsource : grouped.2 = { src with drawn := src.drawn + rows.length } :=
    congrArg Prod.snd (Application.run_ofRows rows src)
  -- the ids that attachments take were drawn for the rows, before those of the page
  let taken := grouped.1.tabs.flatMap (tabTakenIds measures.columnHeight)
  have hdrawn : (taken ++ grouped.2.upcoming n).Subperm (src.upcoming (rows.length + n)) := by
    rw [IdSource.upcoming_add, ← hsource]
    refine subperm_append ((takenIds_tree_subperm grouped.1).trans ?_) (List.Subperm.refl _)
    have hids : (Application.fieldsOf s m c src rows).map (·.id) = src.upcoming rows.length :=
      Application.map_id_fieldsOf
    rw [htree, ← hids]
    exact (Application.flatten_ofFields_perm.map _).subperm.trans
      (List.filter_sublist.map _).subperm
  have hnumber : ∀ id ∈ taken ++ grouped.2.upcoming n, BeginsAsNumber id.toList :=
    fun id hid => IdSource.beginsAsNumber_of_mem_upcoming hbase (hdrawn.subset hid)
  have hnodup : (taken ++ grouped.2.upcoming n).Nodup := by
    obtain ⟨drawn, hperm, hsub⟩ := hdrawn
    exact hperm.nodup_iff.mp (hsub.nodup (src.nodup_upcoming _))
  refine ⟨fixedIds ++ (taken ++ grouped.2.upcoming n), ?_, ?_, ?_⟩
  · have hids := hmarks.filterMap Mark.id?
    have hread : (root.children.flatMap Element.marks).filterMap Mark.id? =
        root.children.flatMap (Element.values "id") := by
      rw [List.filterMap_flatMap]
      exact List.flatMap_congr fun e _ => Element.filterMap_id_marks e
    have hfresh : ((grouped.2.upcoming n).map Mark.id).filterMap Mark.id? =
        grouped.2.upcoming n := by
      rw [List.filterMap_map]
      exact List.filterMap_some
    have htakes : grouped.1.TakesIds := by
      rw [htree]
      exact Application.takesIds_ofFields s labels _ _
    rw [hread, List.filterMap_append, hfresh] at hids
    refine hids.trans (((filterMap_id_pageMarks htakes _).append_right _).trans ?_)
    rw [List.append_assoc, List.append_assoc]
  · refine List.nodup_append.mpr ⟨by decide, hnodup, ?_⟩
    rintro id hfixed other hother rfl
    exact not_beginsAsNumber_of_mem_fixedIds hfixed (hnumber id hother)
  · intro id hid
    rcases List.mem_append.mp hid with hid | hid
    · have hfixed : ∀ id ∈ fixedIds, id ≠ "" := by decide
      exact ⟨hfixed id hid, not_beginsAsName_of_mem_fixedIds hid⟩
    · refine ⟨?_, not_beginsAsName_of_beginsAsNumber (hnumber id hid)⟩
      rintro rfl
      obtain ⟨c, -, hhead⟩ := hnumber "" hid
      cases hhead

/-- The root has its own id beside those below it. -/
theorem returns_values_document (s : Settings) (m : Measures) (d : Metadata) (c : TableEntries)
    (dialogs : List DialogTemplate) (a : Application) :
    (document s m d c dialogs a).Returns (fun root => root.values "id" =
      (written d.id.plain).toList ++ root.children.flatMap (Element.values "id")) := by
  have hroot : ∀ content, (presentation d content).values "id" =
      (written d.id.plain).toList ++ content.flatMap (Element.values "id") := by
    intro content
    rw [presentation, Element.values_node, lookup_givenAttributes (by simp)]
    rfl
  intro src
  rw [document, Numbered.run_bind, Numbered.run_bind, Numbered.run_bind, Numbered.run_pure]
  exact hroot _

/-- **Ids meet only where names make them meet.** Under a base that is a number and without
templates, an id that stands twice below the root is one that the names of tabs and sub-tabs give
twice, in lower case and with blanks joined. So the ids below the root are pairwise different just
if those that the names give are, and with the root they are if its own id is none of them. -/
theorem nodup_ids_document {src : IdSource} (hbase : src.HasNumberBase) (s : Settings)
    (m : Option Metadata) (labels : List (String × String)) (c : Option SubTabEntries)
    (rows : List Row) (d : Metadata) (entries : TableEntries) :
    let grouped := (Application.ofRows s m labels c rows).run src
    (s.WellTyped → ∃ measures, Measures.read s grouped.1 = .ok measures) ∧
      ∀ measures, Measures.read s grouped.1 = .ok measures →
        let root := ((document s measures d entries [] grouped.1).run grouped.2).1
        let ids := root.children.flatMap (Element.values "id")
        (∀ id, 1 < ids.count id → 1 < (nameIds grouped.1).count id) ∧
        (ids.Nodup ↔ (nameIds grouped.1).Nodup) ∧
        ((root.values "id").Nodup ↔ ids.Nodup ∧ d.id.plain ∉ ids) := by
  intro grouped
  refine ⟨fun hs => exists_measures hs grouped.1, fun measures _ => ?_⟩
  intro root ids
  obtain ⟨others, hperm, hnodup, hothers⟩ :=
    exists_otherIds hbase s m labels c rows measures d entries
  have htwice : ∀ id, 1 < ids.count id → 1 < (nameIds grouped.1).count id := by
    intro id hid
    have hcount : ids.count id = (nameIds grouped.1).count id + others.count id := by
      rw [← List.count_append]
      exact hperm.count_eq id
    by_cases hother : id ∈ others
    · have hname : (nameIds grouped.1).count id = 0 := by
        refine List.count_eq_zero.mpr fun hname => ?_
        exact (hothers id hother).2 (beginsAsName_of_mem_nameIds hname)
      have honce := List.nodup_iff_count_le_one.mp hnodup id
      omega
    · have hnone : others.count id = 0 := List.count_eq_zero.mpr hother
      omega
  refine ⟨htwice, ⟨?_, ?_⟩, ?_⟩
  · intro h
    exact (List.nodup_append.mp (hperm.nodup_iff.mp h)).1
  · intro h
    refine List.nodup_iff_count_le_one.mpr fun id => ?_
    have honce := List.nodup_iff_count_le_one.mp h id
    have hid := htwice id
    omega
  · have hroot : root.values "id" = (written d.id.plain).toList ++ ids :=
      returns_values_document s measures d entries [] grouped.1 grouped.2
    have hempty : "" ∉ ids := by
      intro h
      rcases List.mem_append.mp (hperm.mem_iff.mp h) with h | h
      · obtain ⟨rest, hrest⟩ | ⟨rest, hrest⟩ := beginsAsName_of_mem_nameIds h <;> cases hrest
      · exact (hothers "" h).1 rfl
    rw [hroot]
    by_cases hid : d.id.plain = ""
    · have hnone : written "" = none := rfl
      rw [hid, hnone, Option.toList_none, List.nil_append]
      exact ⟨fun h => ⟨h, hempty⟩, fun h => h.1⟩
    · rw [written_of_ne_empty hid, Option.toList_some, List.singleton_append, List.nodup_cons]
      exact and_comm

/-- Under a number below zero, a tab with an attachment and a sub-tab. -/
theorem nodup_ids_document_attachment :
    let src : IdSource := ⟨"-7", 0⟩
    let rows : List Row := [{ label := .text "Files", control := .attachments },
      { label := .text "Owner", subTabName := .text "People" }]
    let grouped := (Application.ofRows .builtin none [] none rows).run src
    src.HasNumberBase ∧ ∃ measures, Measures.read .builtin grouped.1 = .ok measures ∧
      (((document .builtin measures { id := .text "sr" } [] [] grouped.1).run
        grouped.2).1.children.flatMap (Element.values "id")).Nodup := by
  intro src rows grouped
  have hbase : src.HasNumberBase := Or.inl ⟨-7, by decide⟩
  obtain ⟨hread, hids⟩ :=
    nodup_ids_document hbase .builtin none [] none rows { id := .text "sr" } []
  obtain ⟨measures, hmeasures⟩ := hread Settings.wellTyped_builtin
  refine ⟨hbase, measures, hmeasures, (hids measures hmeasures).2.1.mpr ?_⟩
  decide +kernel

theorem returns_mainrec_mem (s : Settings) (m : Measures) (d : Metadata) (c : TableEntries)
    (dialogs : List DialogTemplate) (a : Application) :
    (document s m d c dialogs a).Returns
      (fun root => "mainrec" ∈ root.children.flatMap (Element.values "id")) := by
  have hpage : (pageElement s m d c a).Returns (fun page => "mainrec" ∈ page.values "id") := by
    intro src
    rw [pageElement, Numbered.run_bind, Numbered.run_pure, Element.values_node]
    exact List.mem_cons_self
  intro src
  rw [document, Numbered.run_bind, Numbered.run_bind, Numbered.run_bind, Numbered.run_pure]
  exact List.mem_flatMap.mpr ⟨_, List.mem_cons_self, hpage src⟩

/-- Tabs whose names differ in case only have the same id, and metadata may give the root the id of
the page. -/
theorem not_nodup_ids_document :
    let rows : List Row := [{ label := .text "X", tabName := .text "A" },
      { label := .text "Y", tabName := .text "a" }]
    let grouped := (Application.ofRows .builtin (some {}) [] none rows).run ⟨"1000", 0⟩
    let d : Metadata := { id := .text "mainrec" }
    let single := (Application.ofRows .builtin (some d) [] none (rows.take 1)).run ⟨"1000", 0⟩
    (∃ measures, Measures.read .builtin grouped.1 = .ok measures ∧
      ¬ (((document .builtin measures {} [] [] grouped.1).run grouped.2).1.values "id").Nodup) ∧
    ∃ measures, Measures.read .builtin single.1 = .ok measures ∧
      ¬ (((document .builtin measures d [] [] single.1).run single.2).1.values "id").Nodup := by
  intro rows grouped d single
  obtain ⟨measures, hread⟩ := exists_measures Settings.wellTyped_builtin grouped.1
  obtain ⟨measures', hread'⟩ := exists_measures Settings.wellTyped_builtin single.1
  refine ⟨⟨measures, hread, fun h => ?_⟩, measures', hread', fun h => ?_⟩
  · have hbase : IdSource.HasNumberBase ⟨"1000", 0⟩ := Or.inl ⟨1000, by decide⟩
    obtain ⟨others, hperm, -⟩ :=
      exists_otherIds hbase .builtin (some {}) [] none rows measures {} []
    rw [returns_values_document .builtin measures {} [] [] grouped.1 grouped.2] at h
    have hnames : nameIds grouped.1 = ["tab_a_grid", "tab_a", "tab_a_grid", "tab_a"] := by
      decide +kernel
    have hnodup : (nameIds grouped.1).Nodup :=
      (List.nodup_append.mp (hperm.nodup_iff.mp (List.nodup_append.mp h).2.1)).1
    rw [hnames] at hnodup
    revert hnodup
    decide
  · rw [returns_values_document .builtin measures' d [] [] single.1 single.2] at h
    have hpage := returns_mainrec_mem .builtin measures' d [] [] single.1 single.2
    exact (List.nodup_append.mp h).2.2 "mainrec" List.mem_cons_self "mainrec" hpage rfl

end Page

end Formwork
