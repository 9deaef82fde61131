import Formwork.Proofs.Application.Fields
import Formwork.Proofs.Application.SubTabOrder

/-!
# The buckets of a tree

A bucket is a place of a tree at which fields stand: the list, a header, or a table. The bucket of
a row is told by the row alone and by the sub-tabs that are configured. Every bucket of a tree holds
the fields of the rows that belong there, in the order of the rows.
-/
namespace Formwork

/-- A place of a tree at which fields stand. Without a sub-tab it is a place of the tab itself. -/
inductive Bucket where
  | list
  | header (tab : String) (subTab : Option String)
  | table (tab : String) (subTab : Option String) (relationship : String)
  deriving DecidableEq

namespace Row

/-- The sub-tab on which a row stands: the one that it names, and where sub-tabs are configured only
if that one is configured for the tab of the row. -/
def subTab? (s : Settings) (c : Option SubTabEntries) (r : Row) : Option String :=
  if r.subTabName.truthy && c.all (fun c => c.has (r.tab s) r.subTabName) then
    some r.subTabName.words
  else none

/-- The bucket of a row, none when its area is unknown. -/
def bucket? (s : Settings) (c : Option SubTabEntries) (r : Row) : Option Bucket :=
  match r.area with
  | .list => some .list
  | .header => some (.header (r.tab s) (r.subTab? s c))
  | .detail => some (.table (r.tab s) (r.subTab? s c) (r.table s))
  | .other _ => none

end Row

namespace Application

/-- The panel of a tab, or of a sub-tab of it; empty when there is none. -/
def panelAt (a : Application) (tab : String) (subTab : Option String) : Panel :=
  match a.tabs.find? (·.label == tab), subTab with
  | none, _ => ⟨[], []⟩
  | some t, none => t.panel
  | some t, some sub => ((t.subTabs.find? (·.label == sub)).map (·.panel)).getD ⟨[], []⟩

/-- The fields that stand in a bucket of a tree. -/
def bucket (a : Application) : Bucket → List Field
  | .list => a.list
  | .header tab subTab => (a.panelAt tab subTab).header
  | .table tab subTab relationship => ((a.panelAt tab subTab).tables.lookup relationship).getD []

end Application

def Row.NamesSubTab (r : Row) : Prop :=
  ∃ name, r.subTabName = .text name

/-- A row that names a sub-tab names the text that the sub-tab shows. -/
theorem Row.NamesSubTab.subTab?_eq_some {r : Row} (h : r.NamesSubTab) (s : Settings)
    (sub : String) :
    r.subTab? s none = some sub ↔ r.subTabName.truthy = true ∧ r.subTabName = .text sub := by
  obtain ⟨name, hname⟩ := h
  by_cases ht : name = ""
  · simp [subTab?, hname, ht, Value.truthy]
  · simp [subTab?, hname, ht, Value.truthy, Value.words, Value.toText]

theorem Row.NamesSubTab.cleared {r : Row} (h : r.NamesSubTab) (s : Settings)
    (c : Option SubTabEntries) : (r.cleared s c).NamesSubTab := by
  cases c with
  | none => exact h
  | some c =>
    rw [Row.cleared, Option.elim_some, Row.clearSubTab]
    split
    · exact ⟨"", rfl⟩
    · exact h

theorem Row.subTab?_eq_none (s : Settings) (r : Row) :
    r.subTab? s none = none ↔ r.subTabName.truthy = false := by
  simp [subTab?]

/-- Where the sub-tab of a row is cleared already, the configuration has nothing more to say. -/
theorem Row.subTab?_cleared (s : Settings) (c : Option SubTabEntries) (r : Row) :
    (r.cleared s c).subTab? s none = r.subTab? s c := by
  cases c with
  | none => rfl
  | some c =>
    by_cases h : (r.subTabName.truthy && !c.has (r.tab s) r.subTabName) = true
    · have hr : r.cleared s (some c) = { r with subTabName := .text "" } := if_pos h
      simp only [Bool.and_eq_true, Bool.not_eq_true'] at h
      rw [hr]
      simp [subTab?, h.2, Value.truthy]
    · have hr : r.cleared s (some c) = r := if_neg h
      simp only [Bool.and_eq_true, Bool.not_eq_true', not_and, Bool.not_eq_false] at h
      rw [hr]
      by_cases ht : r.subTabName.truthy = true
      · simp [subTab?, ht, h ht]
      · simp [subTab?, ht]

theorem Row.cleared_bucket? (s : Settings) (c : Option SubTabEntries) (r : Row) :
    (r.cleared s c).bucket? s none = r.bucket? s c := by
  have hkeep : (r.cleared s c).area = r.area ∧ (r.cleared s c).tab s = r.tab s ∧
      (r.cleared s c).table s = r.table s := by
    cases c with
    | none => exact ⟨rfl, rfl, rfl⟩
    | some c =>
      rw [cleared, Option.elim_some, clearSubTab_eq]
      exact ⟨rfl, rfl, rfl⟩
  simp only [bucket?, hkeep.1, hkeep.2.1, hkeep.2.2, subTab?_cleared]

theorem Row.placed_bucket? (s : Settings) (mark id : String) (r : Row) :
    (r.placed mark id).toRow.bucket? s none = r.bucket? s none := by
  simp only [bucket?, subTab?, placed_area, placed_tab, placed_table, placed_subTabName]

namespace Application

variable {s : Settings} {labels : List (String × String)} {c : SubTabEntries}
  {fields : List Field}

/-- Whether a field belongs to a panel. -/
def standsAt (s : Settings) (tab : String) (subTab : Option String) (f : Field) : Bool :=
  f.isOnTab && f.toRow.tab s == tab && f.toRow.subTab? s none == subTab

theorem panel_tabOf (tab : String) :
    (tabOf s labels c fields tab).panel =
      Panel.ofFields s (fields.filter (standsAt s tab none)) := by
  have hown : Tab.own (onTab s fields tab) = fields.filter (standsAt s tab none) := by
    simp only [Tab.own, onTab, List.filter_filter]
    refine List.filter_congr fun f _ => ?_
    have hsub := Row.subTab?_eq_none s f.toRow
    rw [standsAt, Bool.eq_iff_iff]
    simp only [Bool.and_eq_true, beq_iff_eq, Bool.not_eq_true', hsub]
    tauto
  rw [tabOf, Tab.ofFields_eq, hown]

theorem find?_subTabs_tabOf (htext : ∀ f ∈ fields, f.toRow.NamesSubTab) (tab sub : String) :
    (((tabOf s labels c fields tab).subTabs.find? (·.label == sub)).map (·.panel)).getD ⟨[], []⟩ =
      Panel.ofFields s (fields.filter (standsAt s tab (some sub))) := by
  have hkey : ∀ l ∈ Tab.subNames c tab (onTab s fields tab),
      (l.words == sub) = true ↔ l = .text sub := by
    intro l hl
    obtain ⟨f, hf, ht, rfl⟩ := Tab.mem_subNames.mp hl
    obtain ⟨name, hname⟩ := htext f (mem_onTab.mp hf).1
    rw [hname] at ht ⊢
    simp [Value.words, ht, Value.toText]
  have hsub : Tab.onSubTab (onTab s fields tab) (.text sub) =
      fields.filter (standsAt s tab (some sub)) := by
    simp only [Tab.onSubTab, onTab, List.filter_filter]
    refine List.filter_congr fun f hf => ?_
    have hsome := (htext f hf).subTab?_eq_some s sub
    rw [standsAt, Bool.eq_iff_iff]
    simp only [Bool.and_eq_true, beq_iff_eq, hsome]
    tauto
  rw [tabOf, Tab.ofFields_eq]
  simp only
  rw [find?_map_key hkey]
  split
  · rw [Option.map_some, Option.getD_some, hsub]
  · next hnot =>
    have hnil : fields.filter (standsAt s tab (some sub)) = [] := by
      rw [← hsub]
      refine List.eq_nil_iff_forall_not_mem.mpr fun f hf => hnot ?_
      obtain ⟨hf, ht, he⟩ := Tab.mem_onSubTab.mp hf
      exact Tab.mem_subNames.mpr ⟨f, hf, ht, he⟩
    rw [hnil]
    rfl

/-- A panel of a tree is the panel of the fields that belong to it. -/
theorem panelAt_ofFields (htext : ∀ f ∈ fields, f.toRow.NamesSubTab) (tab : String)
    (subTab : Option String) :
    (ofFields s labels c fields).panelAt tab subTab =
      Panel.ofFields s (fields.filter (standsAt s tab subTab)) := by
  have hfind : (ofFields s labels c fields).tabs.find? (·.label == tab) =
      if tab ∈ tabNames s fields then some (tabOf s labels c fields tab) else none := by
    rw [ofFields_eq]
    refine find?_map_key fun l _ => ?_
    rw [tabOf, Tab.ofFields_eq]
    exact beq_iff_eq
  unfold panelAt
  rw [hfind]
  by_cases htab : tab ∈ tabNames s fields
  · rw [if_pos htab]
    cases subTab with
    | none => exact panel_tabOf tab
    | some sub => exact find?_subTabs_tabOf htext tab sub
  · have hnil : fields.filter (standsAt s tab subTab) = [] := by
      refine List.filter_eq_nil_iff.mpr fun f hf hs => htab ?_
      simp only [standsAt, Bool.and_eq_true, beq_iff_eq] at hs
      exact mem_tabNames.mpr ⟨f, hf, hs.1.1, hs.1.2⟩
    rw [if_neg htab, hnil]
    rfl

/-- A bucket of a tree holds the fields that belong there, in their order. -/
theorem bucket_ofFields (htext : ∀ f ∈ fields, f.toRow.NamesSubTab) (b : Bucket) :
    (ofFields s labels c fields).bucket b =
      fields.filter (fun f => f.toRow.bucket? s none == some b) := by
  cases b with
  | list =>
    rw [bucket, ofFields_eq]
    refine List.filter_congr fun f _ => ?_
    rw [Bool.eq_iff_iff]
    cases ha : f.area <;> simp [Row.bucket?, ha]
  | header tab subTab =>
    rw [bucket, panelAt_ofFields htext, Panel.ofFields, List.filter_filter]
    refine List.filter_congr fun f _ => ?_
    rw [Bool.eq_iff_iff]
    cases ha : f.area <;> simp [Row.bucket?, standsAt, Row.isOnTab, ha]
  | table tab subTab relationship =>
    rw [bucket, panelAt_ofFields htext, Panel.ofFields, getD_lookup_classes, List.filter_filter,
      List.filter_filter]
    refine List.filter_congr fun f _ => ?_
    rw [Bool.eq_iff_iff]
    cases ha : f.area <;> simp [Row.bucket?, standsAt, Row.isOnTab, ha]
    tauto

/-- A list beside its image, filtered by the list or by the image. -/
theorem map_snd_filter_zip_mapIdx {α β : Type} {p : α → Bool} {q : β → Bool} {l : List α} :
    ∀ {g : Nat → α → β}, (∀ i a, q (g i a) = p a) →
      ((l.zip (l.mapIdx g)).filter (fun x => p x.1)).map (·.2) = (l.mapIdx g).filter q := by
  induction l with
  | nil => intro g _; rfl
  | cons a l ih =>
    intro g h
    have ih := ih (g := fun i => g (i + 1)) fun i b => h (i + 1) b
    rw [List.mapIdx_cons, List.zip_cons_cons, List.filter_cons, List.filter_cons, h 0 a]
    by_cases hp : p a = true
    · simp only [hp, if_true, List.map_cons, ih]
    · simp only [hp, Bool.false_eq_true, if_false, ih]

section Rows

variable {m : Option Metadata} {c : Option SubTabEntries} {src : IdSource} {rows : List Row}

theorem namesSubTab_of_mem_fieldsOf (htext : ∀ r ∈ rows, r.NamesSubTab) {f : Field}
    (hf : f ∈ fieldsOf s m c src rows) : f.toRow.NamesSubTab := by
  obtain ⟨i, hi, rfl⟩ := List.mem_mapIdx.mp hf
  rw [Row.NamesSubTab, Row.placed_subTabName]
  exact (htext rows[i] (List.getElem_mem hi)).cleared s c

theorem map_id_fieldsOf :
    (fieldsOf s m c src rows).map (·.id) =
      (List.range rows.length).map (fun i => src.id (src.drawn + i + 1)) := by
  refine List.ext_getElem (by simp [fieldsOf]) fun i hi hj => ?_
  simp [fieldsOf]

/-- A sub-tab that no field had to give up is configured for the tab of the field. -/
theorem configured_of_mem_fieldsOf {entries : SubTabEntries} {f : Field}
    (hf : f ∈ fieldsOf s m (some entries) src rows) (ht : f.subTabName.truthy = true) :
    (entries.of (f.toRow.tab s)).any (fun e => e.label == f.subTabName) = true := by
  have hclear := clearSubTab_of_mem_fieldsOf hf
  by_contra hnot
  have hcond : (f.subTabName.truthy && !entries.has (f.toRow.tab s) f.subTabName) = true := by
    simpa [ht, SubTabEntries.has] using hnot
  have hempty : (f.clearSubTab s entries).subTabName = .text "" := by
    rw [Field.clearSubTab, Row.clearSubTab, if_pos hcond]
  rw [hclear] at hempty
  rw [hempty] at ht
  cases ht

/-- The sub-tabs of a tree show texts that are configured for the tab. -/
theorem configured_of_mem_subNames {entries : SubTabEntries} (htext : ∀ r ∈ rows, r.NamesSubTab)
    {tab : String} {sub : Value}
    (hsub : sub ∈ Tab.subNames entries tab (onTab s (fieldsOf s m (some entries) src rows) tab)) :
    .text sub.words = sub ∧ (entries.of tab).any (fun e => e.label == sub) = true := by
  obtain ⟨f, hf, ht, rfl⟩ := Tab.mem_subNames.mp hsub
  obtain ⟨hf, _, htab⟩ := mem_onTab.mp hf
  obtain ⟨name, hname⟩ := namesSubTab_of_mem_fieldsOf htext hf
  have hconfigured := configured_of_mem_fieldsOf hf ht
  rw [htab] at hconfigured
  refine ⟨?_, hconfigured⟩
  rw [hname] at ht ⊢
  simp [Value.words, ht, Value.toText]

/-- The sub-tabs of a tab are configured, and they stand by the last entries of their labels. -/
structure Configured (entries : List SubTabEntry) (t : Tab) : Prop where
  /-- Every label is that of an entry. -/
  configured : ∀ sub ∈ t.subTabs, ∃ e i, SubTabEntries.IsLast entries (.text sub.label) e i
  /-- Their orders ascend, and at equal orders the positions of their entries. -/
  ascending : t.subTabs.Pairwise (fun a b => ∀ e i e' j,
    SubTabEntries.IsLast entries (.text a.label) e i →
    SubTabEntries.IsLast entries (.text b.label) e' j →
    e.order < e'.order ∨ e.order = e'.order ∧ i < j)

theorem configured_tabOf {entries : SubTabEntries} (htext : ∀ r ∈ rows, r.NamesSubTab)
    (tab : String) :
    Configured (entries.of tab)
      (tabOf s labels entries (fieldsOf s m (some entries) src rows) tab) := by
  let shown := onTab s (fieldsOf s m (some entries) src rows) tab
  have hsubTabs : (tabOf s labels entries (fieldsOf s m (some entries) src rows) tab).subTabs =
      (Tab.subNames entries tab shown).map (fun sub =>
        { id := subTabId tab sub.words, label := sub.words
          panel := Panel.ofFields s (Tab.onSubTab shown sub) }) :=
    congrArg Tab.subTabs (Tab.ofFields_eq s entries tab shown labels)
  constructor
  · intro sub hsub
    rw [hsubTabs] at hsub
    obtain ⟨name, hname, rfl⟩ := List.mem_map.mp hsub
    obtain ⟨htext, hany⟩ := configured_of_mem_subNames htext hname
    dsimp only
    rw [htext]
    exact SubTabEntries.exists_isLast hany
  · rw [hsubTabs, List.pairwise_map]
    refine (Tab.pairwise_subNames entries tab _).imp_of_mem ?_
    intro a b ha hb hab e i e' j he he'
    rw [(configured_of_mem_subNames htext ha).1] at he
    rw [(configured_of_mem_subNames htext hb).1] at he'
    exact he.lt_of_rankLe he' hab.2 hab.1

end Rows

/-- **Grouping loses and doubles nothing.** The tree of rows whose sub-tabs are texts holds the
fields of the rows of known areas, each once. The ids are drawn in the order of the rows. Every
bucket holds the fields of the rows that belong there, in the order of the rows. Where sub-tabs are
configured, the sub-tabs of every tab are configured ones and stand by their last entries. -/
theorem ofRows_accounts (s : Settings) (m : Option Metadata) (labels : List (String × String))
    (c : Option SubTabEntries) (rows : List Row) (src : IdSource)
    (htext : ∀ r ∈ rows, r.NamesSubTab) :
    let tree := ((ofRows s m labels c rows).run src).1
    let fields := fieldsOf s m c src rows
    tree.flatten.Perm
        (fields.filter (fun f => f.area = .header ∨ f.area = .detail ∨ f.area = .list)) ∧
      fields.map (·.id) = (List.range rows.length).map (fun i => src.id (src.drawn + i + 1)) ∧
      (∀ b : Bucket, tree.bucket b =
        ((rows.zip fields).filter (fun x => x.1.bucket? s c == some b)).map (·.2)) ∧
      ∀ entries, c = some entries → ∀ t ∈ tree.tabs, Configured (entries.of t.label) t := by
  intro tree fields
  have htree : tree = ofFields s labels (c.getD []) fields :=
    congrArg Prod.fst (run_ofRows rows src)
  rw [htree]
  refine ⟨?_, map_id_fieldsOf, ?_, ?_⟩
  · have hknown : fields.filter (fun f => f.area = .header ∨ f.area = .detail ∨ f.area = .list) =
        fields.filter (fun f => Row.isKnownArea f.area) := by
      refine List.filter_congr fun f _ => ?_
      cases ha : f.area <;> simp [Row.isKnownArea]
    rw [hknown]
    exact flatten_ofFields_perm
  · intro b
    have hplace : ∀ (i : Nat) (r : Row), (((r.cleared s c).placed (namingMark s m)
        (src.id (src.drawn + i + 1))).toRow.bucket? s none == some b) =
          (r.bucket? s c == some b) := by
      intro i r
      rw [Row.placed_bucket?, Row.cleared_bucket?]
    rw [bucket_ofFields (fun f hf => namesSubTab_of_mem_fieldsOf htext hf)]
    exact (map_snd_filter_zip_mapIdx (q := fun f : Field => f.toRow.bucket? s none == some b)
      hplace).symm
  · rintro entries rfl t ht
    rw [ofFields_eq] at ht
    obtain ⟨tab, _, rfl⟩ := List.mem_map.mp ht
    have hlabel : (tabOf s labels entries fields tab).label = tab :=
      congrArg Tab.label (Tab.ofFields_eq s entries tab _ labels)
    rw [Option.getD_some, hlabel]
    exact configured_tabOf htext tab

/-- Of two rows on one tab, the one whose sub-tab is not configured stands in the header of the
tab, with the second id. -/
theorem ofRows_accounts_unconfigured :
    let rows : List Row :=
      [{ fieldName := .text "A", subTabName := .text "Dates" },
       { fieldName := .text "B", subTabName := .text "Notes" }]
    let entries : SubTabEntries := [("Main", [{ label := .text "Dates" }])]
    let tree := ((ofRows .builtin none [] (some entries) rows).run ⟨"1", 0⟩).1
    (∀ r ∈ rows, r.NamesSubTab) ∧
      (tree.bucket (.header "Main" (some "Dates"))).map (·.id) = ["1001"] ∧
      (tree.bucket (.header "Main" none)).map (·.id) = ["1002"] := by
  intro rows entries tree
  have htext : ∀ r ∈ rows, r.NamesSubTab := by
    intro r hr
    rcases List.mem_cons.mp hr with rfl | hr
    · exact ⟨"Dates", rfl⟩
    · obtain rfl := List.mem_singleton.mp hr
      exact ⟨"Notes", rfl⟩
  obtain ⟨-, -, hbucket, -⟩ := ofRows_accounts .builtin none [] (some entries) rows ⟨"1", 0⟩ htext
  refine ⟨htext, ?_, ?_⟩
  · rw [hbucket]
    decide +kernel
  · rw [hbucket]
    decide +kernel

end Application

end Formwork
