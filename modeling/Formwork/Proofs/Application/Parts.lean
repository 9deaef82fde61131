import Formwork.Proofs.Application.Placement
import Formwork.Proofs.Classes

/-!
# The parts of a tree

Panels, tabs and the tree as functions of the fields that they are made of. Every part holds its
fields, each once, and the fields of sub-tabs and of tabs are blocks with a key of their own.
-/
namespace Formwork

namespace SubTabEntries

theorem rankLe_trans (a b c : Int × Nat) (hab : rankLe a b = true) (hbc : rankLe b c = true) :
    rankLe a c = true := by
  simp only [rankLe, Bool.or_eq_true, Bool.and_eq_true, decide_eq_true_eq, beq_iff_eq] at *
  omega

theorem rankLe_total (a b : Int × Nat) : (rankLe a b || rankLe b a) = true := by
  simp only [rankLe, Bool.or_eq_true, Bool.and_eq_true, decide_eq_true_eq, beq_iff_eq]
  omega

theorem arrange_perm (entries : List SubTabEntry) (names : List Value) :
    (arrange entries names).Perm names :=
  List.mergeSort_perm names _

theorem arrange_pairwise (entries : List SubTabEntry) (names : List Value) :
    (arrange entries names).Pairwise
      (fun a b => rankLe (rank entries a) (rank entries b) = true) :=
  List.pairwise_mergeSort
    (fun a b c => rankLe_trans (rank entries a) (rank entries b) (rank entries c))
    (fun a b => rankLe_total (rank entries a) (rank entries b)) names

/-- Names that stand by their ranks are left as they stand. -/
theorem arrange_arrange (entries : List SubTabEntry) (names : List Value) :
    arrange entries (arrange entries names) = arrange entries names :=
  List.mergeSort_of_pairwise (arrange_pairwise entries names)

end SubTabEntries

namespace Panel

variable {s : Settings}

theorem area_of_mem_header {fields : List Field} {f : Field}
    (h : f ∈ (ofFields s fields).header) : f.area = .header := by
  simpa using (List.mem_filter.mp h).2

theorem area_of_mem_tables {fields : List Field} {f : Field}
    (h : f ∈ (ofFields s fields).tables.flatMap (·.2)) : f.area = .detail := by
  have hf := (flatMap_classes_perm _ _).mem_iff.mp h
  simpa using (List.mem_filter.mp hf).2

/-- A panel shows its header and detail fields, each once. -/
theorem fields_ofFields_perm (s : Settings) (fields : List Field)
    (h : ∀ f ∈ fields, f.isOnTab = true) : (ofFields s fields).fields.Perm fields := by
  have hdetail : fields.filter (fun f => f.area == .detail) =
      fields.filter (fun f => !(f.area == .header)) := by
    refine List.filter_congr fun f hf => ?_
    have hon := h f hf
    cases ha : f.area <;> simp [Row.isOnTab, ha] at hon ⊢
  have htables : ((ofFields s fields).tables.flatMap (·.2)).Perm
      (fields.filter (fun f => !(f.area == .header))) :=
    hdetail ▸ flatMap_classes_perm _ _
  exact (htables.append_left _).trans
    (List.filter_append_perm (fun f : Field => f.area == .header) fields)

/-- A panel of fields that are on the tab shows something. -/
theorem fields_ofFields_ne_nil (s : Settings) {fields : List Field} (hne : fields ≠ [])
    (h : ∀ f ∈ fields, f.isOnTab = true) : (ofFields s fields).fields ≠ [] := by
  intro hnil
  have hperm := fields_ofFields_perm s fields h
  rw [hnil] at hperm
  exact hne hperm.nil_eq.symm

end Panel

namespace Tab

variable (s : Settings) (c : SubTabEntries) (name : String) (fields : List Field)

/-- The fields that stand on a tab itself. -/
def own : List Field :=
  fields.filter (fun f => !f.subTabName.truthy)

/-- The fields that stand on a sub-tab. -/
def onSubTab (sub : Value) : List Field :=
  (fields.filter (·.subTabName.truthy)).filter (fun f => f.subTabName == sub)

/-- The names of the sub-tabs that fields name, in the order in which the tab shows them. -/
def subNames : List Value :=
  SubTabEntries.arrange (c.of name)
    (distinct ((fields.filter (·.subTabName.truthy)).map (·.subTabName)))

/-- The fields of a tab. -/
theorem ofFields_eq (labels : List (String × String)) :
    ofFields s labels c name fields =
      { id := tabId name
        label := name
        panel := Panel.ofFields s (own fields)
        subTabs := (subNames c name fields).map (fun sub =>
          { id := subTabId name sub.words
            label := sub.words
            panel := Panel.ofFields s (onSubTab fields sub) })
        mainDetailLabel := detailLabel s labels name } := by
  simp only [ofFields, map_fst_classes, getD_lookup_classes]
  rfl

theorem fields_ofFields (labels : List (String × String)) :
    (ofFields s labels c name fields).fields =
      (Panel.ofFields s (own fields)).fields ++
        (subNames c name fields).flatMap
          (fun sub => (Panel.ofFields s (onSubTab fields sub)).fields) := by
  rw [ofFields_eq, Tab.fields, List.flatMap_map]

variable {s c name fields}

theorem mem_subNames {sub : Value} :
    sub ∈ subNames c name fields ↔
      ∃ f ∈ fields, f.subTabName.truthy = true ∧ f.subTabName = sub := by
  rw [subNames, (SubTabEntries.arrange_perm _ _).mem_iff, mem_distinct]
  simp [and_assoc]

theorem nodup_subNames : (subNames c name fields).Nodup :=
  (SubTabEntries.arrange_perm _ _).nodup_iff.mpr (nodup_distinct _)

/-- The sub-tabs stand by their ranks, each once. -/
theorem pairwise_subNames (c : SubTabEntries) (name : String) (fields : List Field) :
    (subNames c name fields).Pairwise (fun a b =>
      SubTabEntries.rankLe (SubTabEntries.rank (c.of name) a)
        (SubTabEntries.rank (c.of name) b) = true ∧ a ≠ b) :=
  (SubTabEntries.arrange_pairwise (c.of name) _).and nodup_subNames

theorem mem_own {f : Field} : f ∈ own fields ↔ f ∈ fields ∧ f.subTabName.truthy = false := by
  simp [own]

theorem mem_onSubTab {f : Field} {sub : Value} :
    f ∈ onSubTab fields sub ↔ f ∈ fields ∧ f.subTabName.truthy = true ∧ f.subTabName = sub := by
  simp only [onSubTab, List.mem_filter, beq_iff_eq, and_assoc]

theorem mem_panel_own (hon : ∀ f ∈ fields, f.isOnTab = true) {f : Field} :
    f ∈ (Panel.ofFields s (own fields)).fields ↔ f ∈ own fields :=
  (Panel.fields_ofFields_perm s _ fun g hg => hon g (mem_own.mp hg).1).mem_iff

theorem mem_panel_onSubTab (hon : ∀ f ∈ fields, f.isOnTab = true) {sub : Value} {f : Field} :
    f ∈ (Panel.ofFields s (onSubTab fields sub)).fields ↔ f ∈ onSubTab fields sub :=
  (Panel.fields_ofFields_perm s _ fun g hg => hon g (mem_onSubTab.mp hg).1).mem_iff

/-- The panels of the sub-tabs are blocks under the name of the sub-tab. -/
theorem blocks_subNames (hon : ∀ f ∈ fields, f.isOnTab = true) :
    Blocks (fun f : Field => f.subTabName) (subNames c name fields)
      (fun sub => (Panel.ofFields s (onSubTab fields sub)).fields) where
  nodup := nodup_subNames
  ne_nil := by
    intro sub hsub
    obtain ⟨f, hf, ht, he⟩ := mem_subNames.mp hsub
    refine Panel.fields_ofFields_ne_nil s ?_ fun g hg => hon g (mem_onSubTab.mp hg).1
    exact List.ne_nil_of_mem (mem_onSubTab.mpr ⟨hf, ht, he⟩)
  key_eq := by
    intro sub _ f hf
    exact (mem_onSubTab.mp ((mem_panel_onSubTab hon).mp hf)).2.2

/-- The fields of a tab, divided again into those of the tab itself and those of sub-tabs. -/
theorem own_fields_ofFields (hon : ∀ f ∈ fields, f.isOnTab = true)
    (labels : List (String × String)) :
    own (ofFields s labels c name fields).fields = (Panel.ofFields s (own fields)).fields := by
  have hown : ∀ f ∈ (Panel.ofFields s (own fields)).fields, f.subTabName.truthy = false :=
    fun f hf => (mem_own.mp ((mem_panel_own hon).mp hf)).2
  rw [own, fields_ofFields, List.filter_append,
    List.filter_eq_self.mpr fun f hf => by simp [hown f hf],
    List.filter_eq_nil_iff.mpr, List.append_nil]
  intro f hf
  obtain ⟨sub, _, hf⟩ := List.mem_flatMap.mp hf
  simp [(mem_onSubTab.mp ((mem_panel_onSubTab hon).mp hf)).2.1]

theorem filter_truthy_fields_ofFields (hon : ∀ f ∈ fields, f.isOnTab = true)
    (labels : List (String × String)) :
    (ofFields s labels c name fields).fields.filter (·.subTabName.truthy) =
      (subNames c name fields).flatMap
        (fun sub => (Panel.ofFields s (onSubTab fields sub)).fields) := by
  have hown : ∀ f ∈ (Panel.ofFields s (own fields)).fields, f.subTabName.truthy = false :=
    fun f hf => (mem_own.mp ((mem_panel_own hon).mp hf)).2
  rw [fields_ofFields, List.filter_append,
    List.filter_eq_nil_iff.mpr fun f hf => by simp [hown f hf],
    List.filter_eq_self.mpr, List.nil_append]
  intro f hf
  obtain ⟨sub, _, hf⟩ := List.mem_flatMap.mp hf
  simp [(mem_onSubTab.mp ((mem_panel_onSubTab hon).mp hf)).2.1]

/-- A tab shows its fields, each once. -/
theorem fields_ofFields_perm (hon : ∀ f ∈ fields, f.isOnTab = true)
    (labels : List (String × String)) :
    (ofFields s labels c name fields).fields.Perm fields := by
  have hown := Panel.fields_ofFields_perm s (own fields) fun f hf => hon f (mem_own.mp hf).1
  have hsub : ((subNames c name fields).flatMap
      (fun sub => (Panel.ofFields s (onSubTab fields sub)).fields)).Perm
      (fields.filter (·.subTabName.truthy)) := by
    have hpanels : ∀ sub ∈ subNames c name fields,
        ((Panel.ofFields s (onSubTab fields sub)).fields).Perm (onSubTab fields sub) :=
      fun sub _ => Panel.fields_ofFields_perm s _ fun f hf => hon f (mem_onSubTab.mp hf).1
    refine (List.Perm.flatMap_left _ hpanels).trans ?_
    refine flatMap_filter_perm _ nodup_subNames fun f hf => ?_
    obtain ⟨hf, ht⟩ := List.mem_filter.mp hf
    exact mem_subNames.mpr ⟨f, hf, ht, rfl⟩
  rw [fields_ofFields]
  refine (hown.append hsub).trans (List.perm_append_comm.trans ?_)
  exact List.filter_append_perm (fun f : Field => f.subTabName.truthy) fields

end Tab

namespace Application

variable (s : Settings) (labels : List (String × String)) (c : SubTabEntries)
  (fields : List Field)

/-- The names of the tabs that fields name. -/
def tabNames : List String :=
  distinct ((fields.filter (·.isOnTab)).map (fun f => f.toRow.tab s))

/-- The fields that stand on a tab or on one of its sub-tabs. -/
def onTab (name : String) : List Field :=
  (fields.filter (·.isOnTab)).filter (fun f => f.toRow.tab s == name)

/-- The tab of a name. -/
def tabOf (name : String) : Tab :=
  Tab.ofFields s labels c name (onTab s fields name)

theorem ofFields_eq :
    ofFields s labels c fields =
      { list := fields.filter (fun f => f.area == .list)
        tabs := (tabNames s fields).map (tabOf s labels c fields) } := by
  rw [ofFields, classes, List.map_map]
  rfl

theorem flatten_ofFields :
    (ofFields s labels c fields).flatten =
      (tabNames s fields).flatMap (fun name => (tabOf s labels c fields name).fields) ++
        fields.filter (fun f => f.area == .list) := by
  rw [ofFields_eq, flatten, List.flatMap_map]

theorem fields_tabOf_perm (name : String) :
    (tabOf s labels c fields name).fields.Perm (onTab s fields name) :=
  Tab.fields_ofFields_perm (fun _ hf => (List.mem_filter.mp (List.mem_filter.mp hf).1).2) labels

variable {s labels c fields}

theorem mem_onTab {name : String} {f : Field} :
    f ∈ onTab s fields name ↔ f ∈ fields ∧ f.isOnTab = true ∧ f.toRow.tab s = name := by
  simp only [onTab, List.mem_filter, beq_iff_eq, and_assoc]

theorem mem_tabNames {name : String} :
    name ∈ tabNames s fields ↔ ∃ f ∈ fields, f.isOnTab = true ∧ f.toRow.tab s = name := by
  simp only [tabNames, mem_distinct, List.mem_map, List.mem_filter, and_assoc]

theorem mem_fields_tabOf {name : String} {f : Field} :
    f ∈ (tabOf s labels c fields name).fields ↔
      f ∈ fields ∧ f.isOnTab = true ∧ f.toRow.tab s = name :=
  (fields_tabOf_perm s labels c fields name).mem_iff.trans mem_onTab

variable (s labels c fields)

/-- The fields of the tabs are blocks under the name of the tab. -/
theorem blocks_tabNames :
    Blocks (fun f : Field => f.toRow.tab s) (tabNames s fields)
      (fun name => (tabOf s labels c fields name).fields) where
  nodup := nodup_distinct _
  ne_nil := by
    intro name hname hnil
    obtain ⟨f, hf, hon, he⟩ := mem_tabNames.mp hname
    have hmem : f ∈ (tabOf s labels c fields name).fields := mem_fields_tabOf.mpr ⟨hf, hon, he⟩
    rw [hnil] at hmem
    exact List.not_mem_nil hmem
  key_eq := by
    intro name _ f hf
    exact (mem_fields_tabOf.mp hf).2.2

variable {s labels c fields}

theorem isOnTab_of_mem_tabs {f : Field}
    (hf : f ∈ (tabNames s fields).flatMap (fun name => (tabOf s labels c fields name).fields)) :
    f.isOnTab = true := by
  obtain ⟨name, _, hf⟩ := List.mem_flatMap.mp hf
  exact (mem_fields_tabOf.mp hf).2.1

/-- A field of the list is not on a tab. -/
theorem isOnTab_of_list {f : Field} (h : f.area = .list) : f.isOnTab = false := by
  simp [Row.isOnTab, h]

theorem not_list_of_isOnTab {f : Field} (h : f.isOnTab = true) : (f.area == .list) = false := by
  cases ha : f.area <;> simp [Row.isOnTab, ha] at h ⊢

theorem filter_isOnTab_flatten :
    (ofFields s labels c fields).flatten.filter (·.isOnTab) =
      (tabNames s fields).flatMap (fun name => (tabOf s labels c fields name).fields) := by
  rw [flatten_ofFields, List.filter_append,
    List.filter_eq_self.mpr fun f hf => isOnTab_of_mem_tabs hf,
    List.filter_eq_nil_iff.mpr, List.append_nil]
  intro f hf
  have hlist : f.area = .list := by simpa using (List.mem_filter.mp hf).2
  simp [isOnTab_of_list hlist]

theorem filter_list_flatten :
    (ofFields s labels c fields).flatten.filter (fun f => f.area == .list) =
      fields.filter (fun f => f.area == .list) := by
  rw [flatten_ofFields, List.filter_append,
    List.filter_eq_nil_iff.mpr fun f hf => by simp [not_list_of_isOnTab (isOnTab_of_mem_tabs hf)],
    List.nil_append, List.filter_filter]
  simp only [Bool.and_self]

/-- A tree holds every field whose area is known, each once. -/
theorem flatten_ofFields_perm :
    (ofFields s labels c fields).flatten.Perm
      (fields.filter (fun f => Row.isKnownArea f.area)) := by
  have htabs : ((tabNames s fields).flatMap
      (fun name => (tabOf s labels c fields name).fields)).Perm (fields.filter (·.isOnTab)) := by
    have hperm := fun name (_ : name ∈ tabNames s fields) =>
      fields_tabOf_perm s labels c fields name
    refine (List.Perm.flatMap_left _ hperm).trans ?_
    refine flatMap_filter_perm _ (nodup_distinct _) fun f hf => ?_
    exact mem_distinct.mpr (List.mem_map.mpr ⟨f, hf, rfl⟩)
  have htab : fields.filter (·.isOnTab) =
      (fields.filter (fun f => Row.isKnownArea f.area)).filter (fun f => !(f.area == .list)) := by
    rw [List.filter_filter]
    refine List.filter_congr fun f _ => ?_
    cases ha : f.area <;> simp [Row.isOnTab, Row.isKnownArea, ha]
  have hlist : fields.filter (fun f => f.area == .list) =
      (fields.filter (fun f => Row.isKnownArea f.area)).filter (fun f => f.area == .list) := by
    rw [List.filter_filter]
    refine List.filter_congr fun f _ => ?_
    cases f.area <;> simp [Row.isKnownArea]
  rw [flatten_ofFields, hlist]
  rw [htab] at htabs
  refine (htabs.append_right _).trans (List.perm_append_comm.trans ?_)
  exact List.filter_append_perm (fun f : Field => f.area == .list) _

end Application

end Formwork
