import Formwork.Proofs.Application.Fields
import Formwork.Proofs.Application.Parts
import Formwork.Proofs.Row.Sound
import Formwork.Proofs.Schema.Statement
import Formwork.Proofs.Text.Upper
import Formwork.Schema.Coverage
import Formwork.Schema.Statement

/-!
# Coverage is exact

The page asks for the attributes of the fields of a tree, and the schema script stages the
attributes of rows. Both are told by the row alone: grouping changes nothing in a row that either of
them reads. What is missing is then what one row asks for and no row stages, and that only happens
to rows that are reached through a relationship and name no object.
-/
namespace Formwork

namespace Row

/-- Whether the page expects the schema to have the attribute of a row. -/
def isExpected (s : Settings) (m : Metadata) (r : Row) : Bool :=
  r.persistent && r.isCustom s (some m)

/-- Whether the schema script stages an attribute for a row. -/
def Stages (s : Settings) (m : Metadata) (r : Row) (binding : String) : Prop :=
  r.isCustom s (some m) = true ∧ r.target m.recordName.words ≠ "" ∧
    r.target m.recordName.words ++ "." ++ Text.upper r.fieldName.words = binding

instance (s : Settings) (m : Metadata) (r : Row) (binding : String) :
    Decidable (r.Stages s m binding) :=
  inferInstanceAs (Decidable (_ ∧ _ ∧ _))

/-- The object of a row is named by a text. -/
def NamesObject (r : Row) : Prop :=
  ∃ name, r.objectName = .text name

theorem NamesObject.words_ne_empty {r : Row} (h : r.NamesObject)
    (ht : r.objectName.truthy = true) : r.objectName.words ≠ "" := by
  obtain ⟨name, hname⟩ := h
  rw [hname] at ht ⊢
  simpa [Value.words, ht, Value.toText, Value.truthy] using ht

theorem NamesObject.resolve {r : Row} (h : r.NamesObject) (mark : String) :
    (r.resolve mark).NamesObject := by
  unfold Row.resolve
  split
  · exact h
  · exact h

/-- Resolving a name that is settled changes nothing, wherever the row stands. -/
theorem resolve_cleared {mark : String} {r : Row} (h : r.resolve mark = r) (s : Settings)
    (c : Option SubTabEntries) : (r.cleared s c).resolve mark = r.cleared s c := by
  rw [← cleared_resolve, h]

/-- What is known of a row that is sound and has its name. -/
structure Ready (mark : String) (r : Row) : Prop where
  named : r.resolve mark = r
  known : isKnownArea r.area = true
  related : r.area = .detail → r.relationship.truthy = true
  object : r.NamesObject

theorem ready_resolve {r : Row} (h : r.problems = []) (hobject : r.NamesObject) (mark : String) :
    (r.resolve mark).Ready mark where
  named := resolve_resolve mark r
  known := by
    rw [resolve_area]
    exact isKnownArea_of_problems h
  related := by
    rw [resolve_area, resolve_relationship]
    exact relationship_of_problems h
  object := hobject.resolve mark

/-- The row of a field in a tree is the row that it was made from, but for the name of its sub-tab
and for an empty input mode or storage type. -/
theorem toRow_placed_cleared {mark id : String} {r : Row} (h : r.resolve mark = r) (s : Settings)
    (c : Option SubTabEntries) :
    ((r.cleared s c).placed mark id).toRow =
      { r.settle with subTabName := (r.cleared s c).subTabName } := by
  rw [placed, resolve_cleared h]
  cases c with
  | none => rfl
  | some c =>
    rw [cleared, Option.elim_some, clearSubTab_eq]
    rfl

/-- Grouping changes nothing in a row that coverage reads. -/
theorem placed_cleared {mark id : String} {r : Row} (h : r.resolve mark = r) (s : Settings)
    (m : Metadata) (c : Option SubTabEntries) :
    ((r.cleared s c).placed mark id).area = r.area ∧
      ((r.cleared s c).placed mark id).toRow.isExpected s m = r.isExpected s m ∧
      Coverage.expectedBinding m.recordName.words ((r.cleared s c).placed mark id).toRow =
        Coverage.expectedBinding m.recordName.words r := by
  rw [toRow_placed_cleared h]
  exact ⟨rfl, rfl, rfl⟩

/-! ## Where a row is looked for and where it goes -/

theorem upper_owner (record : String) (r : Row) : Text.upper (r.owner record) = r.owner record := by
  unfold owner
  split
  · exact Text.upper_upper _
  · split
    · exact Text.upper_upper _
    · split <;> exact Text.upper_upper _
    · exact Text.upper_upper _

theorem upper_target (record : String) (r : Row) :
    Text.upper (r.target record) = r.target record := by
  unfold target
  split
  · exact Text.upper_upper _
  · split
    · exact Text.upper_eq_empty.mpr rfl
    · exact Text.upper_upper _

/-- The page looks for a row where the script puts it, unless the row is reached through a
relationship and names no object. -/
theorem target_eq_owner {record : String} {r : Row}
    (h : r.objectName.truthy = true ∨ r.relationship.truthy = false)
    (hdetail : r.area = .detail → r.relationship.truthy = true) :
    r.target record = r.owner record := by
  by_cases hobject : r.objectName.truthy = true
  · rw [target, owner, if_pos hobject, if_pos hobject]
  · have hrelationship := h.resolve_left hobject
    have hno : ¬ r.relationship.truthy = true := by simp [hrelationship]
    rw [target, owner, if_neg hobject, if_neg hobject, if_neg hno]
    split
    · next ha => exact absurd (hdetail ha) hno
    · rw [if_neg hno]
    · rfl

/-- A row that is put anywhere names an object or is not reached through a relationship. -/
theorem routed_of_target_ne_empty {record : String} {r : Row} (h : r.target record ≠ "") :
    r.objectName.truthy = true ∨ r.relationship.truthy = false := by
  by_contra hnot
  simp only [not_or, Bool.not_eq_true, Bool.not_eq_false] at hnot
  exact h (by rw [target, hnot.1, hnot.2]; rfl)

theorem target_ne_empty {record : String} {r : Row}
    (h : r.objectName.truthy = true ∨ r.relationship.truthy = false) (hobject : r.NamesObject)
    (hrecord : record ≠ "") : r.target record ≠ "" := by
  by_cases ht : r.objectName.truthy = true
  · rw [target, if_pos ht]
    exact fun he => hobject.words_ne_empty ht (Text.upper_eq_empty.mp he)
  · have hno : ¬ r.relationship.truthy = true := by simp [h.resolve_left ht]
    rw [target, if_neg ht, if_neg hno]
    exact fun he => hrecord (Text.upper_eq_empty.mp he)

end Row

namespace Coverage

variable {s : Settings} {m : Metadata}

theorem upper_binding {object : String} (name : String) (h : Text.upper object = object) :
    Text.upper (object ++ "." ++ Text.upper name) = object ++ "." ++ Text.upper name := by
  rw [Text.upper_append, Text.upper_append, h, Text.upper_upper]
  rfl

/-- The script stages what its rows stage. -/
theorem mem_map_binding_statements {rows : List Row} {b : String} :
    b ∈ (Schema.statements s m rows).1.map (·.binding) ↔ ∃ r ∈ rows, r.Stages s m b := by
  have hbindings : (Schema.statements s m rows).1.map (·.binding) =
      ((Schema.statements s m rows).1.map Schema.Statement.key).map
        (fun k => k.1 ++ "." ++ k.2) := by
    rw [List.map_map]
    rfl
  rw [hbindings, List.mem_map]
  constructor
  · rintro ⟨k, hk, rfl⟩
    obtain ⟨r, hstaged, rfl⟩ := Schema.mem_map_key_statements.mp hk
    obtain ⟨hr, hcustom, htarget⟩ := Schema.mem_stagedRows.mp hstaged
    exact ⟨r, hr, hcustom, htarget, rfl⟩
  · rintro ⟨r, hr, hcustom, htarget, rfl⟩
    have hstaged := Schema.mem_stagedRows.mpr ⟨hr, hcustom, htarget⟩
    exact ⟨_, Schema.mem_map_key_statements.mpr ⟨r, hstaged, rfl⟩, rfl⟩

/-- The bindings that the fields of a tree ask for, in the order of the tree. -/
def treeBindings (s : Settings) (m : Metadata) (tree : Application) : List String :=
  (tree.flatten.filter (fun f => f.toRow.isExpected s m)).map
    (fun f => expectedBinding m.recordName.words f.toRow)

theorem expectedAttributes_eq (tree : Application) :
    expectedAttributes s m tree = distinct (treeBindings s m tree) := rfl

/-- A row of a known area stands in the tree, under the id that is drawn for it. -/
theorem mem_flatten_ofRows {m : Option Metadata} {labels : List (String × String)}
    {c : Option SubTabEntries} {rows : List Row} {src : IdSource} {i : Nat} {r : Row}
    (hr : rows[i]? = some r) (hknown : Row.isKnownArea r.area = true) :
    (r.cleared s c).placed (namingMark s m) (src.id (src.drawn + i + 1)) ∈
      ((Application.ofRows s m labels c rows).run src).1.flatten := by
  obtain ⟨hi, rfl⟩ := List.getElem?_eq_some_iff.mp hr
  rw [Application.run_ofRows, Application.flatten_ofFields_perm.mem_iff]
  refine List.mem_filter.mpr ⟨List.mem_mapIdx.mpr ⟨i, hi, rfl⟩, ?_⟩
  rw [Row.placed_area, Row.cleared_area]
  exact hknown

/-- The tree asks for what a row with its name asks for. -/
theorem expectedBinding_mem_treeBindings {labels : List (String × String)}
    {c : Option SubTabEntries} {rows : List Row} {src : IdSource} {r : Row} (hr : r ∈ rows)
    (hnamed : r.resolve (namingMark s (some m)) = r) (hknown : Row.isKnownArea r.area = true)
    (hexpected : r.isExpected s m = true) : expectedBinding m.recordName.words r ∈
      treeBindings s m ((Application.ofRows s (some m) labels c rows).run src).1 := by
  obtain ⟨i, hi⟩ := List.getElem?_of_mem hr
  obtain ⟨-, hsame, hbinding⟩ := Row.placed_cleared hnamed s m c
  exact List.mem_map.mpr ⟨_, List.mem_filter.mpr
    ⟨mem_flatten_ofRows hi hknown, hsame.trans hexpected⟩, hbinding⟩

/-- The tree asks for what its rows ask for. -/
theorem mem_treeBindings {labels : List (String × String)} {c : Option SubTabEntries}
    {rows : List Row} {src : IdSource} (h : ∀ r ∈ rows, r.Ready (namingMark s (some m)))
    {b : String} :
    b ∈ treeBindings s m ((Application.ofRows s (some m) labels c rows).run src).1 ↔
      ∃ r ∈ rows, r.isExpected s m = true ∧ expectedBinding m.recordName.words r = b := by
  constructor
  · rw [Application.run_ofRows, treeBindings, List.mem_map]
    rintro ⟨f, hf, rfl⟩
    obtain ⟨hf, hexpected⟩ := List.mem_filter.mp hf
    have hfield := (List.mem_filter.mp (Application.flatten_ofFields_perm.mem_iff.mp hf)).1
    obtain ⟨i, hi, rfl⟩ := List.mem_mapIdx.mp hfield
    obtain ⟨-, hsame, hbinding⟩ := Row.placed_cleared (h _ (List.getElem_mem hi)).named s m c
    exact ⟨rows[i], List.getElem_mem hi, hsame ▸ hexpected, hbinding.symm⟩
  · rintro ⟨r, hr, hexpected, rfl⟩
    exact expectedBinding_mem_treeBindings hr (h r hr).named (h r hr).known hexpected

/-- Comparing bindings in upper case with others in upper case. -/
theorem compare_of_upper {expected staged : List String}
    (hexpected : ∀ b ∈ expected, Text.upper b = b) (hstaged : ∀ b ∈ staged, Text.upper b = b) :
    (compare expected staged).expected = distinct expected ∧
      (compare expected staged).missing.Sublist (distinct expected) ∧
      ∀ b, b ∈ (compare expected staged).missing ↔ b ∈ expected ∧ b ∉ staged := by
  have hmap : ∀ l : List String, (∀ b ∈ l, Text.upper b = b) → l.map Text.upper = l :=
    fun l h => (List.map_congr_left h).trans (List.map_id l)
  rw [compare, hmap expected hexpected, hmap staged hstaged]
  refine ⟨rfl, List.filter_sublist, ?_⟩
  intro b
  rw [List.mem_filter, mem_distinct]
  simp

/-- A row that asks for a binding that no row stages is reached through a relationship and names no
object. -/
theorem relationship_of_not_staged {mark : String} {rows : List Row} {r : Row} (hr : r ∈ rows)
    (h : r.Ready mark) (hrecord : m.recordName.words ≠ "") (hexpected : r.isExpected s m = true)
    (hmissing : ¬ ∃ r' ∈ rows, r'.Stages s m (expectedBinding m.recordName.words r)) :
    r.relationship.truthy = true ∧ r.objectName.truthy = false := by
  by_contra hnot
  have hrouted : r.objectName.truthy = true ∨ r.relationship.truthy = false := by
    cases ho : r.objectName.truthy
    · cases hl : r.relationship.truthy
      · exact Or.inr rfl
      · exact absurd ⟨hl, ho⟩ hnot
    · exact Or.inl rfl
  have hcustom : r.isCustom s (some m) = true := (Bool.and_eq_true_iff.mp hexpected).2
  refine hmissing ⟨r, hr, hcustom, Row.target_ne_empty hrouted h.object hrecord, ?_⟩
  rw [Row.target_eq_owner hrouted h.related]
  rfl

/-- **Coverage is exact.** Of sound rows, a binding is missing if and only if a row asks for it and
no row stages it. What is missing and what is expected has no repetition and stands in the order of
the tree. A row whose binding is missing has a relationship and no object, and the report is valid
exactly when nothing is missing. -/
theorem report_exact (s : Settings) (m : Metadata) (labels : List (String × String))
    (c : Option SubTabEntries) (rows : List Row) (src : IdSource)
    (hsound : Row.requireSound (some m) rows = .ok ()) (hobject : ∀ r ∈ rows, r.NamesObject) :
    let named := Row.resolveAll s (some m) rows
    let tree := ((Application.ofRows s (some m) labels c named).run src).1
    let report := compare (expectedAttributes s m tree)
      ((Schema.statements s m named).1.map (·.binding))
    (∀ b, b ∈ report.missing ↔
        (∃ r ∈ named, r.isExpected s m = true ∧ expectedBinding m.recordName.words r = b) ∧
          ¬ ∃ r ∈ named, r.Stages s m b) ∧
      (∀ b, b ∈ report.expected ↔ b ∈ treeBindings s m tree) ∧
      report.expected.Nodup ∧ InOrderOf (treeBindings s m tree) report.expected ∧
      report.missing.Nodup ∧ InOrderOf (treeBindings s m tree) report.missing ∧
      (∀ b ∈ report.missing, ∀ r ∈ named, r.isExpected s m = true →
        expectedBinding m.recordName.words r = b →
          r.relationship.truthy = true ∧ r.objectName.truthy = false) ∧
      (report.isValid = true ↔ report.missing = []) := by
  intro named tree report
  have hready : ∀ r ∈ named, r.Ready (namingMark s (some m)) := by
    intro r hr
    obtain ⟨given, hgiven, rfl⟩ := List.mem_map.mp hr
    exact Row.ready_resolve (Row.problems_of_requireSound hsound hgiven) (hobject given hgiven) _
  have htree : ∀ b, b ∈ treeBindings s m tree ↔
      ∃ r ∈ named, r.isExpected s m = true ∧ expectedBinding m.recordName.words r = b :=
    fun b => mem_treeBindings hready
  have hasked : ∀ b ∈ expectedAttributes s m tree, Text.upper b = b := by
    intro b hb
    obtain ⟨r, -, -, rfl⟩ := (htree b).mp (mem_distinct.mp hb)
    exact upper_binding _ (Row.upper_owner _ r)
  have hstaged : ∀ b ∈ (Schema.statements s m named).1.map (·.binding), Text.upper b = b := by
    intro b hb
    obtain ⟨r, -, -, -, rfl⟩ := mem_map_binding_statements.mp hb
    exact upper_binding _ (Row.upper_target _ r)
  obtain ⟨hexpected, hsub, hmem⟩ := compare_of_upper hasked hstaged
  rw [expectedAttributes_eq, distinct_of_nodup (nodup_distinct _)] at hexpected hsub
  have hmissing : ∀ b, b ∈ report.missing ↔
      (∃ r ∈ named, r.isExpected s m = true ∧ expectedBinding m.recordName.words r = b) ∧
        ¬ ∃ r ∈ named, r.Stages s m b := by
    intro b
    rw [hmem, expectedAttributes_eq, mem_distinct, htree, mem_map_binding_statements]
  have hreport : report.expected = distinct (treeBindings s m tree) := hexpected
  rw [hreport]
  refine ⟨hmissing, fun b => mem_distinct, nodup_distinct _, inOrderOf_distinct _,
    (nodup_distinct _).sublist hsub, List.Pairwise.sublist hsub (inOrderOf_distinct _), ?_,
    List.isEmpty_iff⟩
  rintro b hb r hr hask rfl
  exact relationship_of_not_staged hr (hready r hr) (Row.record_of_requireSound hsound) hask
    ((hmissing _).mp hb).2

/-- The attribute of a row behind a relationship is missing, that of a list row is not. -/
theorem report_exact_related :
    let m : Metadata := { recordName := .text "SR" }
    let rows : List Row :=
      [{ fieldName := .text "ZZ_A", label := .text "A", relationship := .text "OWNER" },
       { fieldName := .text "ZZ_B", label := .text "B", area := .list }]
    let named := Row.resolveAll .builtin (some m) rows
    let tree := ((Application.ofRows .builtin (some m) [] none named).run ⟨"1", 0⟩).1
    let report := compare (expectedAttributes .builtin m tree)
      ((Schema.statements .builtin m named).1.map (·.binding))
    Row.requireSound (some m) rows = .ok () ∧ (∀ r ∈ rows, r.NamesObject) ∧
      "OWNER.ZZ_A" ∈ report.missing ∧ "SR.ZZ_B" ∉ report.missing := by
  intro m rows named tree report
  have hsound : Row.requireSound (some m) rows = .ok () :=
    Row.requireSound_eq_ok_iff.mpr (by decide +kernel)
  have hobject : ∀ r ∈ rows, r.NamesObject := by
    intro r hr
    rcases List.mem_cons.mp hr with rfl | hr
    · exact ⟨"", rfl⟩
    · obtain rfl := List.mem_singleton.mp hr
      exact ⟨"", rfl⟩
  obtain ⟨hiff, -⟩ := report_exact .builtin m [] none rows ⟨"1", 0⟩ hsound hobject
  refine ⟨hsound, hobject, (hiff _).mpr ?_, fun hmissing => ((hiff _).mp hmissing).2 ?_⟩
  · decide +kernel
  · decide +kernel

end Coverage

end Formwork
