import Formwork.Proofs.Artifact.Complete
import Formwork.Proofs.Schema.Collected
import Formwork.Proofs.Schema.ReadBack

/-!
# Covered attributes and storage

Coverage asks whether the schema script has a statement of each attribute that a persistent field is
bound to. It does not look at what the statement says, and the row that a statement is built from
need not be the row of the field: of all rows of an attribute the first one counts. So an attribute
that coverage does not miss has a statement, and it is stored exactly if the first row of it is
persistent.
-/
namespace Formwork

namespace Coverage

open Schema

variable {s : Settings} {m : Metadata}

/-- Nothing that a script shows spells the head of an INSERT, and no name has a quote. -/
structure IsLegible (m : Metadata) (script : Script) : Prop where
  quiet : ∀ text ∈ m.recordName.plain :: script.statements.flatMap shownTexts,
    mentionsStaging text = false
  plain : ∀ t ∈ script.statements, '\x27' ∉ t.attributeName.toList

/-- From a legible script coverage reads the bindings of its statements. -/
theorem mem_stagedAttributes_iff {time : String} {rows : List Row}
    (htime : mentionsStaging time = false) (h : IsLegible m (scriptOf s m time rows)) {b : String} :
    b ∈ stagedAttributes (scriptOf s m time rows).content ↔
      ∃ t ∈ (statements s m rows).1, t.binding = b := by
  have hquiet : ∀ text ∈ m.recordName.plain :: time ::
      (statements s m rows).1.flatMap shownTexts, mentionsStaging text = false := by
    have hshown := h.quiet
    rw [List.forall_mem_cons] at hshown ⊢
    exact ⟨hshown.1, List.forall_mem_cons.mpr ⟨htime, hshown.2⟩⟩
  rw [stagedAttributes_scriptOf hquiet, mem_distinct, List.mem_map]
  refine exists_congr fun t => and_congr_right fun ht => ?_
  rw [escaped_of_notMem (h.plain t ht)]
  rfl

/-- An expected attribute is missing exactly if it is not read in the script. -/
theorem mem_missing_iff {tree : Application} {sql b : String} :
    b ∈ (compare (expectedAttributes s m tree) (stagedAttributes sql)).missing ↔
      b ∈ expectedAttributes s m tree ∧ b ∉ stagedAttributes sql := by
  refine (compare_of_upper ?_ ?_).2.2 b
  · intro b hb
    rw [expectedAttributes_eq, mem_distinct] at hb
    obtain ⟨f, -, rfl⟩ := List.mem_map.mp hb
    exact upper_binding _ (Row.upper_owner _ f.toRow)
  · intro b hb
    rw [stagedAttributes_eq, mem_distinct] at hb
    obtain ⟨k, -, rfl⟩ := List.mem_map.mp hb
    exact upper_binding _ (Text.upper_upper _)

/-- A field of the tree expects what its row expects, and goes where its row goes. -/
theorem exists_row_of_mem_flatten {labels : List (String × String)} {c : Option SubTabEntries}
    {rows : List Row} {src : IdSource}
    (h : ∀ r ∈ rows, r.resolve (namingMark s (some m)) = r) {f : Field}
    (hf : f ∈ ((Application.ofRows s (some m) labels c rows).run src).1.flatten) :
    ∃ r ∈ rows, f.toRow.isExpected s m = r.isExpected s m ∧
      expectedBinding m.recordName.words f.toRow = expectedBinding m.recordName.words r ∧
      f.toRow.target m.recordName.words = r.target m.recordName.words := by
  rw [Application.run_ofRows] at hf
  have hfield := (List.mem_filter.mp (Application.flatten_ofFields_perm.mem_iff.mp hf)).1
  obtain ⟨i, hi, rfl⟩ := List.mem_mapIdx.mp hfield
  have hr := List.getElem_mem hi
  obtain ⟨-, hexpected, hbinding⟩ := Row.placed_cleared (h _ hr) s m c
  refine ⟨rows[i], hr, hexpected, hbinding, ?_⟩
  rw [Row.toRow_placed_cleared (h _ hr)]
  rfl

end Coverage

namespace ApplicationInputs

variable {s : Settings} {i : ApplicationInputs} {bundle : Bundle}

/-- The statements of the schema script are those of the rows with their names. -/
theorem Makes.schema_eq (h : i.Makes s bundle) :
    bundle.schema = Schema.scriptOf s i.metadata "" (i.named s) :=
  (Schema.generate_eq_ok_iff.mp h.schema).2.2.symm

theorem resolve_of_mem_named {r : Row} (h : r ∈ i.named s) :
    r.resolve (namingMark s (some i.metadata)) = r := by
  obtain ⟨given, -, rfl⟩ := List.mem_map.mp h
  exact Row.resolve_resolve _ given

/-- Every row of a known area is shown by a field of the tree. -/
theorem exists_field_of_row {k : Nat} {r : Row} (hr : (i.named s)[k]? = some r)
    (hknown : Row.isKnownArea r.area = true) :
    ∃ f ∈ (i.tree s).flatten, f.toRow.isExpected s i.metadata = r.isExpected s i.metadata ∧
      Coverage.expectedBinding i.metadata.recordName.words f.toRow =
        Coverage.expectedBinding i.metadata.recordName.words r := by
  have hnamed := resolve_of_mem_named (List.mem_of_getElem? hr)
  obtain ⟨-, hexpected, hbinding⟩ := Row.placed_cleared hnamed s i.metadata i.subTabs
  exact ⟨_, Coverage.mem_flatten_ofRows hr hknown, hexpected, hbinding⟩

/-- In a legible script an attribute with a statement is covered. -/
theorem Makes.notMem_missing (h : i.Makes s bundle)
    (hread : Coverage.IsLegible i.metadata bundle.schema) {t : Schema.Statement}
    (ht : t ∈ bundle.schema.statements) : t.binding ∉ bundle.coverage.missing := by
  rw [h.coverage, Coverage.mem_missing_iff]
  rintro ⟨-, hmissing⟩
  rw [h.schema_eq] at hmissing hread ht
  exact hmissing ((Coverage.mem_stagedAttributes_iff (by decide +kernel) hread).mpr ⟨t, ht, rfl⟩)

/-- A row that is staged itself has a statement, under the binding that the page expects. -/
theorem Makes.exists_statement_of_target (h : i.Makes s bundle) {r : Row} (hr : r ∈ i.named s)
    (hcustom : r.isCustom s (some i.metadata) = true)
    (htarget : r.target i.metadata.recordName.words ≠ "") :
    ∃ t ∈ bundle.schema.statements,
      t.binding = Coverage.expectedBinding i.metadata.recordName.words r := by
  have howner : r.target i.metadata.recordName.words = r.owner i.metadata.recordName.words :=
    Row.target_eq_owner (Row.routed_of_target_ne_empty htarget) fun ha =>
      Row.relationship_of_problems (Row.problems_of_requireSound h.sound hr) ha
  obtain ⟨t, ht, hbinding⟩ := List.mem_map.mp
    (Coverage.mem_map_binding_statements.mpr ⟨r, hr, hcustom, htarget, rfl⟩)
  rw [h.schema_eq]
  refine ⟨t, ht, hbinding.trans ?_⟩
  rw [howner]
  rfl

/-- An attribute is stored if a row that is first for it is persistent. -/
theorem Makes.exists_persistent_iff (h : i.Makes s bundle) (b : String) :
    (∃ t ∈ bundle.schema.statements, t.binding = b ∧ t.persistent = true) ↔
      ∃ k r, Schema.IsFirst s i.metadata (i.named s) k r ∧ r.Stages s i.metadata b ∧
        r.persistent = true := by
  rw [h.schema_eq]
  constructor
  · rintro ⟨t, ht, rfl, hpersistent⟩
    obtain ⟨k, hfirst⟩ := Schema.exists_isFirst_of_mem_statements ht
    have hstaged := Schema.isStaged_iff.mp hfirst.2.1
    refine ⟨k, t.row, hfirst, ⟨hstaged.1, hstaged.2, ?_⟩, hpersistent⟩
    rw [Schema.binding_of_mem_statements ht]
  · rintro ⟨k, r, hfirst, ⟨-, -, rfl⟩, hpersistent⟩
    obtain ⟨t, ht, rfl⟩ := hfirst.exists_statement
    exact ⟨t, ht, Schema.binding_of_mem_statements ht, hpersistent⟩

/-- **Covered attributes are stored as their first rows say.** A persistent custom field whose
attribute coverage does not miss has a statement of it, where the row is staged itself or the script
is legible. The statement gives the attribute a column exactly if the row that is first for the
attribute is persistent. -/
theorem covered_stored (hgen : i.generate s = .ok bundle) {f : Field}
    (hf : f ∈ bundle.application.flatten) (hexpected : f.toRow.isExpected s i.metadata = true)
    (hcovered : Coverage.expectedBinding i.metadata.recordName.words f.toRow ∉
      bundle.coverage.missing)
    (hread : f.toRow.target i.metadata.recordName.words ≠ "" ∨
      Coverage.IsLegible i.metadata bundle.schema) :
    let b := Coverage.expectedBinding i.metadata.recordName.words f.toRow
    (∃ t ∈ bundle.schema.statements, t.binding = b) ∧
      ((∃ t ∈ bundle.schema.statements, t.binding = b ∧ t.persistent = true) ↔
        ∃ k r, Schema.IsFirst s i.metadata (i.named s) k r ∧ r.Stages s i.metadata b ∧
          r.persistent = true) := by
  intro b
  have hmakes := makes_of_generate hgen
  refine ⟨?_, hmakes.exists_persistent_iff b⟩
  rw [hmakes.application] at hf
  obtain ⟨r, hr, hsame, hbinding, htarget⟩ :=
    Coverage.exists_row_of_mem_flatten (fun r => resolve_of_mem_named) hf
  rcases hread with hstaged | hlegible
  · rw [hsame, Row.isExpected, Bool.and_eq_true] at hexpected
    rw [htarget] at hstaged
    obtain ⟨t, ht, heq⟩ := hmakes.exists_statement_of_target hr hexpected.2 hstaged
    exact ⟨t, ht, heq.trans hbinding.symm⟩
  · have hasked : b ∈ Coverage.expectedAttributes s i.metadata (i.tree s) := by
      rw [Coverage.expectedAttributes_eq, mem_distinct]
      exact List.mem_map.mpr ⟨f, List.mem_filter.mpr ⟨hf, hexpected⟩, rfl⟩
    rw [hmakes.coverage, Coverage.mem_missing_iff, not_and, not_not] at hcovered
    have hread := hcovered hasked
    rw [hmakes.schema_eq] at hread hlegible ⊢
    exact (Coverage.mem_stagedAttributes_iff (by decide +kernel) hlegible).mp hread

/-- A row behind a relationship is covered and stored by a row that names the object. -/
theorem covered_stored_named_object :
    let i : ApplicationInputs := { rows :=
      [{ fieldName := .text "ZZ_A", label := .text "A", relationship := .text "owner" },
       { fieldName := .text "ZZ_A", label := .text "A", objectName := .text "OWNER" }] }
    ∃ bundle, i.generate .builtin = .ok bundle ∧ ∃ f ∈ bundle.application.flatten,
      f.toRow.isExpected .builtin i.metadata = true ∧
      Coverage.expectedBinding i.metadata.recordName.words f.toRow = "OWNER.ZZ_A" ∧
      "OWNER.ZZ_A" ∉ bundle.coverage.missing ∧
      Coverage.IsLegible i.metadata bundle.schema ∧
      ∃ t ∈ bundle.schema.statements, t.binding = "OWNER.ZZ_A" ∧ t.persistent = true := by
  intro i
  have hsound : Row.requireSound (some i.metadata) i.rows = .ok () :=
    Row.requireSound_eq_ok_iff.mpr (by decide +kernel)
  have hfits : i.Fits .builtin := fits_of_rows Settings.wellTyped_builtin (by decide +kernel)
  obtain ⟨bundle, hgen⟩ := (okIff_generate Settings.hasMeasures_builtin hsound).ok hfits
  have hmakes := makes_of_generate hgen
  have hlegible : Coverage.IsLegible i.metadata bundle.schema := by
    rw [hmakes.schema_eq]
    exact ⟨by decide +kernel, by decide +kernel⟩
  obtain ⟨f, hf, hexpected, hbinding⟩ := exists_field_of_row (s := .builtin) (i := i) (k := 0)
    rfl (by decide)
  have hstatement : ∃ t ∈ bundle.schema.statements, t.binding = "OWNER.ZZ_A" := by
    rw [hmakes.schema_eq]
    decide +kernel
  have hcovered : "OWNER.ZZ_A" ∉ bundle.coverage.missing := by
    obtain ⟨t, ht, heq⟩ := hstatement
    exact heq ▸ hmakes.notMem_missing hlegible ht
  have hfirst : ∃ r, Schema.IsFirst .builtin i.metadata (i.named .builtin) 1 r ∧
      r.Stages .builtin i.metadata "OWNER.ZZ_A" ∧ r.persistent = true := by
    refine ⟨_, ⟨rfl, by decide +kernel, ?_⟩, by decide +kernel, rfl⟩
    rintro (_ | j) q hq hstaged -
    · obtain rfl := Option.some.inj hq
      revert hstaged
      decide +kernel
    · exact Nat.le_add_left 1 j
  have hasked := hexpected.trans (by decide +kernel : _ = true)
  have heq := hbinding.trans (by decide +kernel : _ = "OWNER.ZZ_A")
  rw [← hmakes.application] at hf
  obtain ⟨-, hstored⟩ := covered_stored hgen hf hasked (heq ▸ hcovered) (Or.inr hlegible)
  rw [heq] at hstored
  obtain ⟨r, hr⟩ := hfirst
  exact ⟨bundle, hgen, f, hf, hasked, heq, hcovered, hlegible, hstored.mpr ⟨1, r, hr⟩⟩

/-- A persistent field is covered by a statement that gives its attribute no column. -/
theorem covered_not_stored :
    let i : ApplicationInputs := { rows :=
      [{ fieldName := .text "ZZ_A", label := .text "A", persistent := false },
       { fieldName := .text "ZZ_A", label := .text "A", area := .list }] }
    ∃ bundle, i.generate .builtin = .ok bundle ∧ ∃ f ∈ bundle.application.flatten,
      f.toRow.isExpected .builtin i.metadata = true ∧
      Coverage.expectedBinding i.metadata.recordName.words f.toRow ∉ bundle.coverage.missing ∧
      ¬ ∃ t ∈ bundle.schema.statements,
        t.binding = Coverage.expectedBinding i.metadata.recordName.words f.toRow ∧
          t.persistent = true := by
  intro i
  have hsound : Row.requireSound (some i.metadata) i.rows = .ok () :=
    Row.requireSound_eq_ok_iff.mpr (by decide +kernel)
  have hfits : i.Fits .builtin := fits_of_rows Settings.wellTyped_builtin (by decide +kernel)
  obtain ⟨bundle, hgen⟩ := (okIff_generate Settings.hasMeasures_builtin hsound).ok hfits
  have hmakes := makes_of_generate hgen
  have hlegible : Coverage.IsLegible i.metadata bundle.schema := by
    rw [hmakes.schema_eq]
    exact ⟨by decide +kernel, by decide +kernel⟩
  obtain ⟨f, hf, hexpected, hbinding⟩ := exists_field_of_row (s := .builtin) (i := i) (k := 1)
    rfl (by decide)
  have hstatement : ∃ t ∈ bundle.schema.statements,
      t.binding = Coverage.expectedBinding i.metadata.recordName.words f.toRow := by
    rw [hmakes.schema_eq, hbinding]
    decide +kernel
  have hnone : ¬ ∃ t ∈ bundle.schema.statements,
      t.binding = Coverage.expectedBinding i.metadata.recordName.words f.toRow ∧
        t.persistent = true := by
    rw [hmakes.schema_eq, hbinding]
    decide +kernel
  obtain ⟨t, ht, heq⟩ := hstatement
  refine ⟨bundle, hgen, f, hmakes.application ▸ hf, hexpected.trans (by decide +kernel), ?_, hnone⟩
  exact heq ▸ hmakes.notMem_missing hlegible ht

end ApplicationInputs

end Formwork
