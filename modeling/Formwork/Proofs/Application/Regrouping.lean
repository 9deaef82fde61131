import Formwork.Proofs.Application.Fields
import Formwork.Proofs.Application.Parts

/-!
# Grouping the fields of a tree again

The fields of a tree, in the order of the tree, are grouped into the same tree. Headers and tables
are found again by area and relationship, sub-tabs in their arranged order, and tabs by name,
because every part of the tree is a block of fields with a key of its own.
-/
namespace Formwork

namespace Panel

/-- The fields of a panel make the same panel. -/
theorem ofFields_fields (s : Settings) (fields : List Field) :
    ofFields s (ofFields s fields).fields = ofFields s fields := by
  have hheader : (ofFields s fields).fields.filter (fun f => f.area == .header) =
      (ofFields s fields).header := by
    rw [Panel.fields, List.filter_append,
      List.filter_eq_self.mpr fun f hf => by simp [area_of_mem_header hf],
      List.filter_eq_nil_iff.mpr fun f hf => by simp [area_of_mem_tables hf], List.append_nil]
  have htables : (ofFields s fields).fields.filter (fun f => f.area == .detail) =
      (ofFields s fields).tables.flatMap (·.2) := by
    rw [Panel.fields, List.filter_append,
      List.filter_eq_nil_iff.mpr fun f hf => by simp [area_of_mem_header hf],
      List.filter_eq_self.mpr fun f hf => by simp [area_of_mem_tables hf], List.nil_append]
  have hclasses : classes (fun f : Field => f.toRow.table s)
      ((ofFields s fields).tables.flatMap (·.2)) = (ofFields s fields).tables :=
    classes_flatMap_classes _ _
  calc ofFields s (ofFields s fields).fields
      = ⟨(ofFields s fields).header, (ofFields s fields).tables⟩ := by
        conv_lhs => rw [ofFields, hheader, htables, hclasses]
    _ = ofFields s fields := rfl

end Panel

namespace Tab

variable {s : Settings} {c : SubTabEntries} {name : String} {fields : List Field}

/-- The fields of a tab make the same tab. -/
theorem ofFields_fields (hon : ∀ f ∈ fields, f.isOnTab = true)
    {labels again : List (String × String)}
    (hlabel : detailLabel s again name = detailLabel s labels name) :
    ofFields s again c name (ofFields s labels c name fields).fields =
      ofFields s labels c name fields := by
  have hnames : subNames c name (ofFields s labels c name fields).fields =
      subNames c name fields := by
    rw [subNames, filter_truthy_fields_ofFields hon, (blocks_subNames hon).distinct_keys]
    exact SubTabEntries.arrange_arrange _ _
  have hsub : ∀ sub ∈ subNames c name fields,
      Panel.ofFields s (onSubTab (ofFields s labels c name fields).fields sub) =
        Panel.ofFields s (onSubTab fields sub) := by
    intro sub h
    rw [onSubTab, filter_truthy_fields_ofFields hon, (blocks_subNames hon).filter_key h,
      Panel.ofFields_fields]
  have hsubTabs : (subNames c name fields).map (fun sub => SubTab.mk (subTabId name sub.words)
        sub.words (Panel.ofFields s (onSubTab (ofFields s labels c name fields).fields sub))) =
      (subNames c name fields).map (fun sub => SubTab.mk (subTabId name sub.words)
        sub.words (Panel.ofFields s (onSubTab fields sub))) :=
    List.map_congr_left fun sub h => by rw [hsub sub h]
  rw [ofFields_eq s c name _ again, hnames, own_fields_ofFields hon, Panel.ofFields_fields, hlabel,
    hsubTabs, ofFields_eq s c name fields labels]

end Tab

/-- A label that a tab has is its label again. -/
theorem detailLabel_of_lookup (s : Settings) {labels again : List (String × String)} {tab : String}
    (h : again.lookup tab = some (detailLabel s labels tab)) :
    detailLabel s again tab = detailLabel s labels tab := by
  have hagain : detailLabel s again tab = if detailLabel s labels tab == "" then s.mainDetailLabel
      else detailLabel s labels tab := by
    rw [detailLabel, h, Option.getD_some]
  rw [hagain]
  by_cases hl : ((labels.lookup tab).getD "") = ""
  · have hd : detailLabel s labels tab = s.mainDetailLabel := by simp [detailLabel, hl]
    rw [hd, ite_self]
  · have hd : detailLabel s labels tab = (labels.lookup tab).getD "" := by simp [detailLabel, hl]
    rw [hd]
    simp [hl]

namespace Application

section Tree

variable {s : Settings} {labels : List (String × String)} {c : SubTabEntries}
  {fields : List Field}

/-- The label that a tree has for the detail area of one of its tabs. -/
theorem lookup_mainDetailLabels {name : String} (h : name ∈ tabNames s fields) :
    (ofFields s labels c fields).mainDetailLabels.lookup name =
      some (detailLabel s labels name) := by
  have hlabels : (ofFields s labels c fields).mainDetailLabels =
      (tabNames s fields).map (fun name => (name, detailLabel s labels name)) := by
    rw [ofFields_eq, mainDetailLabels, List.map_map]
    exact List.map_congr_left fun name _ => by
      simp only [Function.comp_apply, tabOf, Tab.ofFields_eq]
  rw [hlabels, lookup_map_pair, if_pos h]

/-- The fields of a tree make the same tree. -/
theorem ofFields_flatten :
    ofFields s (ofFields s labels c fields).mainDetailLabels c
        (ofFields s labels c fields).flatten =
      ofFields s labels c fields := by
  have hnames : tabNames s (ofFields s labels c fields).flatten = tabNames s fields := by
    rw [tabNames, filter_isOnTab_flatten, (blocks_tabNames s labels c fields).distinct_keys]
  have htabs : ∀ name ∈ tabNames s fields,
      tabOf s (ofFields s labels c fields).mainDetailLabels c
          (ofFields s labels c fields).flatten name =
        tabOf s labels c fields name := by
    intro name h
    have hon : onTab s (ofFields s labels c fields).flatten name =
        (tabOf s labels c fields name).fields := by
      rw [onTab, filter_isOnTab_flatten, (blocks_tabNames s labels c fields).filter_key h]
    rw [tabOf, hon]
    exact Tab.ofFields_fields (fun _ hf => (mem_onTab.mp hf).2.1)
      (detailLabel_of_lookup s (lookup_mainDetailLabels h))
  rw [ofFields_eq s _ c (ofFields s labels c fields).flatten, filter_list_flatten, hnames,
    List.map_congr_left htabs, ofFields_eq s labels c fields]

end Tree

variable {s : Settings} {m : Option Metadata} {labels : List (String × String)}
  {c : Option SubTabEntries}

/-- Fields that are settled and clear are grouped as they are. -/
theorem run_group_of_settled {fields : List Field} (hset : ∀ f ∈ fields, f.Settled (namingMark s m))
    (hclear : ∀ entries, c = some entries → ∀ f ∈ fields, f.clearSubTab s entries = f)
    (src : IdSource) :
    (group s m labels c fields).run src = (ofFields s labels (c.getD []) fields, src) := by
  have hplaced := Field.run_mapM_place_settled (namingMark s m) fields hset src
  cases c with
  | none =>
    rw [group, Numbered.run_bind, hplaced, Numbered.run_pure]
  | some entries =>
    have hmap : fields.map (Field.clearSubTab s entries) = fields :=
      (List.map_congr_left (hclear entries rfl)).trans (List.map_id fields)
    rw [group, hmap, Numbered.run_bind, hplaced, Numbered.run_pure]

/-- **Grouping is undone by flattening.** The fields of the tree of any rows, grouped again with the
labels of the tree, make an equal tree: the same tabs, sub-tabs and tables in the same order, with
the same labels and ids, and the same fields with their names, ids and bindings. No id is drawn
from the source of the second grouping, whichever it is. -/
theorem group_flatten_ofRows (s : Settings) (m : Option Metadata) (labels : List (String × String))
    (c : Option SubTabEntries) (rows : List Row) (src again : IdSource) :
    let tree := ((ofRows s m labels c rows).run src).1
    (group s m tree.mainDetailLabels c tree.flatten).run again = (tree, again) := by
  intro tree
  have htree : tree = ofFields s labels (c.getD []) (fieldsOf s m c src rows) :=
    congrArg Prod.fst (run_ofRows rows src)
  have hmem : ∀ f ∈ tree.flatten, f ∈ fieldsOf s m c src rows := by
    intro f hf
    rw [htree] at hf
    exact (List.mem_filter.mp (flatten_ofFields_perm.mem_iff.mp hf)).1
  have hset : ∀ f ∈ tree.flatten, f.Settled (namingMark s m) :=
    fun f hf => settled_of_mem_fieldsOf (hmem f hf)
  have hclear : ∀ entries, c = some entries → ∀ f ∈ tree.flatten,
      f.clearSubTab s entries = f := by
    rintro entries rfl f hf
    exact clearSubTab_of_mem_fieldsOf (hmem f hf)
  rw [run_group_of_settled hset hclear again]
  rw [htree, ofFields_flatten]

end Application

end Formwork
