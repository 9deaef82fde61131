import Formwork.Proofs.Resource.Attributes

/-!
# One name for all artifacts

A row that gives no name is named after its label, with the mark of custom names where the record
belongs to the vendor. The tree of the page derives the same names as the rows of the scripts, and a
derived name always counts as a custom one: it begins with the mark, and upper case is taken
character by character, so that no label changes what the mark becomes.
-/
namespace Formwork

theorem isMarked_append {mark word : String} (h : mark ++ word ≠ "") :
    isMarked mark (mark ++ word) = true := by
  have hprefix : (Text.upper mark).toList.isPrefixOf (Text.upper (mark ++ word)).toList = true := by
    rw [Text.upper_append, String.toList_append, List.isPrefixOf_iff_prefix]
    exact List.prefix_append _ _
  rw [isMarked, hprefix, Bool.and_true]
  exact bne_iff_ne.mpr h

theorem isMarked_nameOfLabel {mark label : String} (h : nameOfLabel mark label ≠ "") :
    isMarked mark (nameOfLabel mark label) = true := by
  rw [nameOfLabel] at h ⊢
  split at h
  · exact absurd rfl h
  · next hword =>
    rw [if_neg hword]
    exact isMarked_append h

namespace Row

variable {s : Settings} {m : Option Metadata}

/-- A row with a derived name is a custom one. -/
theorem isCustom_of_nameOfLabel {r : Row} (hdata : r.isData = true)
    (hname : r.fieldName = .text (nameOfLabel (namingMark s m) r.label.words))
    (hne : nameOfLabel (namingMark s m) r.label.words ≠ "") : r.isCustom s m = true := by
  have htruthy : r.fieldName.truthy = true := by
    rw [hname]
    exact bne_iff_ne.mpr hne
  have hwords : r.fieldName.words = nameOfLabel (namingMark s m) r.label.words := by
    rw [Value.words, if_pos htruthy, hname]
    rfl
  rw [isCustom, htruthy, hdata, hwords]
  cases hnew : m.any (fun m => !m.isStandard) with
  | true => rfl
  | false =>
    have hmark : namingMark s m = s.customMark := by rw [namingMark, hnew]; rfl
    rw [hmark] at hne ⊢
    simpa using isMarked_nameOfLabel hne

theorem resolve_of_truthy {mark : String} {r : Row} (h : r.fieldName.truthy = true) :
    r.resolve mark = r := if_pos h

theorem resolve_of_not_truthy {mark : String} {r : Row} (h : r.fieldName.truthy = false) :
    r.resolve mark = { r with fieldName := .text (nameOfLabel mark r.label.words) } := by
  rw [resolve, if_neg (Bool.eq_false_iff.mp h)]

theorem resolveAll_resolveAll (rows : List Row) :
    resolveAll s m (resolveAll s m rows) = resolveAll s m rows := by
  simp only [resolveAll, List.map_map, Function.comp_def, resolve_resolve]

/-- The object that the resource script gives the attribute of a row outside the list to. -/
def definedObject? (m : Metadata) (r : Row) : Option String :=
  if r.objectName.truthy then some (Text.upper r.objectName.words)
  else if r.area == .header && !r.relationship.truthy then some m.record
  else if r.area == .detail && r.relationship.truthy then some (Text.upper r.relationship.words)
  else none

end Row

namespace Resource

variable {s : Settings} {m : Metadata}

theorem mem_definedAttributes {rows : List Row} {r : Row} (hr : r ∈ rows)
    (hdefined : r.isDefined s m = true) {object : String}
    (hobject : r.definedObject? m = some object) (title : String) :
    (object, r.attributeName) ∈ definedAttributes (definitions s m title rows).1 := by
  rw [define_definitions title rows, List.mem_append, List.mem_append, List.mem_map,
    mem_groupAttributes_classes, mem_groupAttributes_classes]
  refine Or.inl ?_
  rw [Row.definedObject?] at hobject
  split at hobject
  · next hnamed =>
    obtain rfl := Option.some.inj hobject
    exact Or.inr ⟨r, mem_routedRows.mpr ⟨hr, hdefined, hnamed⟩, rfl⟩
  · next hunnamed =>
    have hunnamed : r.objectName.truthy = false := Bool.eq_false_iff.mpr hunnamed
    split at hobject
    · next hheader =>
      obtain rfl := Option.some.inj hobject
      simp only [Bool.and_eq_true, beq_iff_eq, Bool.not_eq_true'] at hheader
      exact Or.inl (Or.inl
        ⟨r, mem_headerRows.mpr ⟨hr, hdefined, hheader.1, hunnamed, hheader.2⟩, rfl⟩)
    · split at hobject
      · next hdetail =>
        obtain rfl := Option.some.inj hobject
        have hmem := List.mem_filter.mpr ⟨hr, hdefined⟩
        refine Or.inl (Or.inr ⟨r, List.mem_filter.mpr ⟨hmem, ?_⟩, rfl⟩)
        rw [hunnamed, Bool.not_false, Bool.true_and]
        exact hdetail
      · cases hobject

end Resource

namespace Row

/-- Everything that is made of rows knows one of them by a name: the page, under the id of the row,
the schema script or its report of what it leaves out, the resource script, and coverage. -/
structure KnownAs (s : Settings) (m : Metadata) (title : String) (rows : List Row)
    (tree : Application) (id : String) (r : Row) (name : String) : Prop where
  shown : isKnownArea r.area = true → ∃ f ∈ tree.flatten, f.id = id ∧ f.fieldName = .text name
  staged : r.target m.recordName.words ≠ "" → (r.target m.recordName.words, Text.upper name) ∈
    (Schema.statements s m rows).1.map Schema.Statement.key
  reported : r.target m.recordName.words = "" → .text name ∈ (Schema.statements s m rows).2
  defined : r.area ≠ .list → ∀ object, r.definedObject? m = some object →
    (object, Text.upper name) ∈
      Resource.definedAttributes (Resource.definitions s m title rows).1
  expected : isKnownArea r.area = true → r.persistent = true →
    r.owner m.recordName.words ++ "." ++ Text.upper name ∈ Coverage.expectedAttributes s m tree

/-- A custom row is known by its name. -/
theorem knownAs_of_isCustom {s : Settings} {m : Metadata} {labels : List (String × String)}
    {c : Option SubTabEntries} {rows : List Row} {src : IdSource} {i : Nat} {r : Row}
    {name : String} (hr : rows[i]? = some r) (hname : r.fieldName = .text name)
    (hcustom : r.isCustom s (some m) = true) (title : String) :
    KnownAs s m title rows ((Application.ofRows s (some m) labels c rows).run src).1
      (src.id (src.drawn + i + 1)) r name := by
  have hmem : r ∈ rows := List.mem_of_getElem? hr
  have htruthy : r.fieldName.truthy = true := by
    rw [isCustom, Bool.and_eq_true, Bool.and_eq_true] at hcustom
    exact hcustom.1.1
  have hwords : r.fieldName.words = name := by
    rw [Value.words, if_pos htruthy, hname]
    rfl
  have hresolved : r.resolve (namingMark s (some m)) = r := resolve_of_truthy htruthy
  constructor
  · intro hknown
    refine ⟨_, Coverage.mem_flatten_ofRows hr hknown, rfl, ?_⟩
    rw [← hname, placed, resolve_cleared hresolved]
    exact cleared_fieldName s c r
  · intro htarget
    have hstaged := Schema.mem_stagedRows.mpr ⟨hmem, hcustom, htarget⟩
    rw [← hwords]
    exact Schema.mem_map_key_statements.mpr ⟨r, hstaged, rfl⟩
  · intro htarget
    rw [← hname, Schema.statements]
    refine List.mem_map.mpr ⟨r, List.mem_filter.mpr ⟨?_, beq_iff_eq.mpr htarget⟩, rfl⟩
    exact List.mem_filter.mpr ⟨hmem, hcustom⟩
  · intro hlist object hobject
    have hdefined : r.isDefined s m = true := by
      rw [isDefined, hcustom, Bool.and_true]
      exact bne_iff_ne.mpr hlist
    rw [← hwords]
    exact Resource.mem_definedAttributes hmem hdefined hobject title
  · intro hknown hpersistent
    have hexpected : r.isExpected s m = true := by
      rw [isExpected, hpersistent, hcustom]
      rfl
    rw [← hwords, Coverage.expectedAttributes_eq, mem_distinct]
    exact Coverage.expectedBinding_mem_treeBindings hmem hresolved hknown hexpected

/-- Rows become the same tree, with the same ids, whether they have been given their names before
or not. Giving names twice is giving them once, and a row that has a name keeps it. A data row whose
label gives it a name is a custom one and is known by that name everywhere. -/
theorem resolveAll_agrees (s : Settings) (m : Option Metadata) (labels : List (String × String))
    (c : Option SubTabEntries) (rows : List Row) (src : IdSource) :
    let named := resolveAll s m rows
    (Application.ofRows s m labels c named).run src =
        (Application.ofRows s m labels c rows).run src ∧
      resolveAll s m named = named ∧
      (∀ (i : Nat) (r : Row), rows[i]? = some r → r.fieldName.truthy = true → named[i]? = some r) ∧
      ∀ (i : Nat) (r : Row) (name : String), rows[i]? = some r →
        r.fieldName.truthy = false → r.isData = true →
        nameOfLabel (namingMark s m) r.label.words = name → name ≠ "" →
          ∃ q, named[i]? = some q ∧ q = { r with fieldName := .text name } ∧
            q.isCustom s m = true ∧
            ∀ given title, m = some given → KnownAs s given title named
              ((Application.ofRows s m labels c rows).run src).1
              (src.id (src.drawn + i + 1)) q name := by
  intro named
  have hnamed : ∀ {i : Nat} {r : Row}, rows[i]? = some r →
      named[i]? = some (r.resolve (namingMark s m)) := by
    intro i r hr
    show (rows.map (resolve (namingMark s m)))[i]? = _
    rw [List.getElem?_map, hr]
    rfl
  have hlength : named.length = rows.length := List.length_map _
  have htree : (Application.ofRows s m labels c named).run src =
      (Application.ofRows s m labels c rows).run src := by
    rw [Application.run_ofRows, Application.run_ofRows, Application.fieldsOf_resolveAll, hlength]
  -- What is known of the derived name holds of the rows that the scripts get, and of the tree of
  -- the rows as they were given, because both trees are the same.
  refine ⟨htree, resolveAll_resolveAll rows, ?_, ?_⟩
  · intro i r hr htruthy
    rw [hnamed hr, resolve_of_truthy htruthy]
  · rintro i r name hr hunnamed hdata rfl hne
    have hq := hnamed hr
    rw [resolve_of_not_truthy hunnamed] at hq
    have hcustom := isCustom_of_nameOfLabel
      (r := { r with fieldName := .text (nameOfLabel (namingMark s m) r.label.words) })
      hdata rfl hne
    refine ⟨_, hq, rfl, hcustom, ?_⟩
    rintro given title rfl
    rw [← htree]
    exact knownAs_of_isCustom hq rfl hcustom title

theorem resolveAll_agrees_sharp_s :
    let m : Metadata := { recordName := .text "SR" }
    let rows : List Row := [{ label := .text "Straße 7" }]
    let named := resolveAll .builtin (some m) rows
    let tree := ((Application.ofRows .builtin (some m) [] none rows).run ⟨"1", 0⟩).1
    ∃ q, named[0]? = some q ∧ q.fieldName = .text "ZZ_STRASSE_7" ∧
      q.isCustom .builtin (some m) = true ∧
      KnownAs .builtin m "" named tree "1001" q "ZZ_STRASSE_7" := by
  intro m rows named tree
  obtain ⟨-, -, -, hderived⟩ := resolveAll_agrees .builtin (some m) [] none rows ⟨"1", 0⟩
  obtain ⟨q, hq, hname, hcustom, hknown⟩ := hderived 0 { label := .text "Straße 7" }
    "ZZ_STRASSE_7" rfl rfl (by decide) (by decide +kernel) (by decide)
  exact ⟨q, hq, by rw [hname], hcustom, hknown m "" rfl⟩

end Row

end Formwork
