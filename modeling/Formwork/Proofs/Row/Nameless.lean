import Formwork.Proofs.Artifact.Naming
import Formwork.Proofs.Row.Name
import Formwork.Proofs.Row.Report

/-!
# Rows without a name

A label gives a name if some character of it has a letter A to Z or a digit in upper case. The check
of rows asks for a name only where the label has a character from U+4E00 to U+9FFF. A row with any
other label that gives no name passes it: the page shows its field without a name, and both scripts
pass over it.
-/
namespace Formwork

/-- Whether a label gives a name: some character of it has a letter A to Z or a digit in upper
case. -/
def SuggestsName (label : String) : Prop :=
  ∃ c ∈ label.toList, ∃ d ∈ Text.upperChar c, isNameChar d = true

theorem nameOfLabel_eq_empty_iff {mark label : String} :
    nameOfLabel mark label = "" ↔ ¬ SuggestsName label := by
  have hnone : ¬ SuggestsName label ↔
      ∀ d ∈ label.toList.flatMap Text.upperChar, isNameChar d = false := by
    simp only [SuggestsName, List.mem_flatMap, not_exists, not_and, Bool.not_eq_true,
      forall_exists_index, and_imp]
    exact ⟨fun h d c hc hd => h c hc d hd, fun h c hc d hd => h d c hc hd⟩
  rw [nameOfLabel_eq_empty_iff_labelWord, labelWord_eq_empty_iff, Text.upper, String.toList_ofList,
    hnone]

namespace Row

theorem truthy_resolve_iff (mark : String) {r : Row} :
    (r.resolve mark).fieldName.truthy = true ↔
      r.fieldName.truthy = true ∨ SuggestsName r.label.words := by
  cases h : r.fieldName.truthy with
  | true => simp [resolve_of_truthy h, h]
  | false =>
    have hname : (Value.text (nameOfLabel mark r.label.words)).truthy = true ↔
        nameOfLabel mark r.label.words ≠ "" := bne_iff_ne
    rw [resolve_of_not_truthy h]
    simp [hname, nameOfLabel_eq_empty_iff]

/-- A label in a row without problems and without a name is there, and has no character from U+4E00
to U+9FFF. -/
theorem label_of_problems {r : Row} (h : r.problems = []) (hname : r.fieldName.truthy = false) :
    r.label.truthy = true ∧ hasChinese r.label.words = false := by
  rw [List.eq_nil_iff_forall_not_mem] at h
  constructor
  · by_contra hlabel
    exact h .noLabel (mem_problems.mpr (Bool.eq_false_iff.mpr hlabel))
  · by_contra hchinese
    exact h .noName (mem_problems.mpr ⟨by simpa using hchinese, hname⟩)

theorem filter_eraseIdx {p : Row → Bool} {q : Row} (hp : p q = false) {rows : List Row} :
    ∀ {i : Nat}, rows[i]? = some q → (rows.eraseIdx i).filter p = rows.filter p := by
  induction rows with
  | nil => simp
  | cons r rows ih =>
    intro i hq
    cases i with
    | zero =>
      obtain rfl := Option.some.inj hq
      simp [hp]
    | succ i =>
      have hrest := ih (i := i) hq
      simp [List.filter_cons, hrest]

/-- Both scripts are as they would be without a row that has no name. -/
theorem scripts_eraseIdx (s : Settings) (m : Metadata) {rows : List Row} {q : Row} {i : Nat}
    (hq : rows[i]? = some q) (hnameless : q.fieldName.truthy = false) :
    Schema.statements s m (rows.eraseIdx i) = Schema.statements s m rows ∧
      ∀ title, Resource.definitions s m title (rows.eraseIdx i) =
        Resource.definitions s m title rows := by
  have hcustom : q.isCustom s (some m) = false := by
    rw [isCustom, hnameless, Bool.false_and, Bool.false_and]
  have hdefined : (q.area != .list && q.isCustom s (some m)) = false := by
    rw [hcustom, Bool.and_false]
  have hkey : (q.area == .header && q.fieldName.truthy) = false := by
    rw [hnameless, Bool.and_false]
  constructor
  · simp only [Schema.statements, filter_eraseIdx hcustom hq]
  · intro title
    simp only [Resource.definitions,
      filter_eraseIdx (p := fun r => r.area != .list && r.isCustom s (some m)) hdefined hq,
      filter_eraseIdx (p := fun r => r.area == .header && r.fieldName.truthy) hkey hq]

/-- Where nothing keeps rows from being generated, a row has a name or is given one, unless its
label gives none. Such a label is not empty and has no character from U+4E00 to U+9FFF. The row
stands on the page all the same, with an empty name, and both scripts are as they would be without
it. -/
theorem fieldName_resolveAll (s : Settings) {m : Metadata} {rows : List Row}
    (h : requireSound (some m) rows = .ok ()) (labels : List (String × String))
    (c : Option SubTabEntries) (src : IdSource) :
    let named := resolveAll s (some m) rows
    let tree := ((Application.ofRows s (some m) labels c named).run src).1
    ∀ (i : Nat) (r : Row), rows[i]? = some r →
      ∃ q, named[i]? = some q ∧
        (q.fieldName.truthy = true ↔ r.fieldName.truthy = true ∨ SuggestsName r.label.words) ∧
        (q.fieldName.truthy = false →
          r.label.truthy = true ∧ hasChinese r.label.words = false ∧
          (∃ f ∈ tree.flatten, f.id = src.id (src.drawn + i + 1) ∧ f.fieldName = .text "") ∧
          Schema.statements s m (named.eraseIdx i) = Schema.statements s m named ∧
          ∀ title, Resource.definitions s m title (named.eraseIdx i) =
            Resource.definitions s m title named) := by
  intro named tree i r hr
  have hnamed : named[i]? = some (r.resolve (namingMark s (some m))) := by
    show (rows.map (resolve (namingMark s (some m))))[i]? = _
    rw [List.getElem?_map, hr]
    rfl
  have hproblems : r.problems = [] := problems_of_requireSound h (List.mem_of_getElem? hr)
  refine ⟨_, hnamed, truthy_resolve_iff _, fun hnameless => ?_⟩
  have hgiven : ¬ (r.fieldName.truthy = true ∨ SuggestsName r.label.words) := by
    rw [← truthy_resolve_iff (namingMark s (some m)), hnameless]
    exact Bool.false_ne_true
  have hunnamed : r.fieldName.truthy = false := by
    rw [← Bool.not_eq_true]
    exact fun hname => hgiven (Or.inl hname)
  obtain ⟨hlabel, hchinese⟩ := label_of_problems hproblems hunnamed
  refine ⟨hlabel, hchinese, ⟨_, Coverage.mem_flatten_ofRows hnamed ?_, rfl, ?_⟩, ?_⟩
  · rw [resolve_area]
    exact isKnownArea_of_problems hproblems
  · have hempty : nameOfLabel (namingMark s (some m)) r.label.words = "" :=
      nameOfLabel_eq_empty_iff.mpr fun hsuggests => hgiven (Or.inr hsuggests)
    have hname : (r.resolve (namingMark s (some m))).fieldName = .text "" := by
      rw [resolve_of_not_truthy hunnamed, hempty]
    rw [← hname, placed, resolve_cleared (resolve_resolve _ r)]
    exact cleared_fieldName s c _
  · exact scripts_eraseIdx s m hnamed hnameless

/-- A label of small letters gives a name, and one of Greek letters gives none. -/
theorem fieldName_resolveAll_greek :
    let rows : List Row := [{ label := .text "amount" }, { label := .text "ΠΟΣΟ" }]
    let named := resolveAll .builtin (some {}) rows
    let tree := ((Application.ofRows .builtin (some {}) [] none named).run ⟨"1", 0⟩).1
    requireSound (some {}) rows = .ok () ∧
      (∃ q, named[0]? = some q ∧ q.fieldName.truthy = true) ∧
      (∃ f ∈ tree.flatten, f.id = "1002" ∧ f.fieldName = .text "") ∧
      Schema.statements .builtin {} (named.eraseIdx 1) = Schema.statements .builtin {} named := by
  intro rows named tree
  have hsound : requireSound (some {}) rows = .ok () :=
    requireSound_eq_ok_iff.mpr (by decide +kernel)
  have hall := fieldName_resolveAll .builtin hsound [] none ⟨"1", 0⟩
  refine ⟨hsound, ?_, ?_⟩
  · obtain ⟨q, hq, hname, -⟩ := hall 0 { label := .text "amount" } rfl
    refine ⟨q, hq, hname.mpr (Or.inr ⟨'a', by decide, 'A', by decide, by decide⟩)⟩
  · obtain ⟨q, hq, -, hnameless⟩ := hall 1 { label := .text "ΠΟΣΟ" } rfl
    have hnone : q.fieldName.truthy = false := by
      obtain rfl := Option.some.inj hq
      decide +kernel
    obtain ⟨-, -, hshown, hstaged, -⟩ := hnameless hnone
    exact ⟨hshown, hstaged⟩

/-- A label that is a character of the first extension of Chinese characters passes the check and
gives no name. -/
theorem nameless_of_extension_label :
    let rows : List Row := [{ label := .text "㐀" }]
    requireSound (some {}) rows = .ok () ∧
      ∃ q, (resolveAll .builtin (some {}) rows)[0]? = some q ∧ q.isData = true ∧
        q.fieldName = .text "" := by
  intro rows
  exact ⟨requireSound_eq_ok_iff.mpr (by decide +kernel), _, rfl, by decide, by decide +kernel⟩

end Row

end Formwork
