import Formwork.Proofs.Row.Sound
import Formwork.Resource.Definition

/-!
# What relationships join on

Every relationship of a script joins its table on one row, the key row: the first named header row
that is required, or the first named header row if none is. Neither rule asks whether the row is a
field of the primary record, so that a button or a field of another record can be the key.
-/
namespace Formwork

/-- Whether the row stands in the header and has a name. -/
def Row.isNamedHeader (r : Row) : Bool :=
  r.area == .header && r.fieldName.truthy

/-- Whether the row is a named data field of the primary record. -/
def Row.isPrimaryField (r : Row) : Bool :=
  r.isNamedHeader && r.isData && !r.relationship.truthy && !r.objectName.truthy

namespace Resource

variable {s : Settings} {m : Metadata} {rows : List Row}

/-- The condition that joins two tables on a column. -/
def joinOn (key : String) : String :=
  key ++ " = :" ++ key

/-- The row that relationships join on. -/
inductive IsKeyRow (rows : List Row) (r : Row) : Prop
  /-- It is the first named header row that is required. -/
  | required (before after : List Row) (split : rows = before ++ r :: after)
      (named : r.isNamedHeader = true) (required : r.dbRequired = true)
      (first : ∀ q ∈ before, q.isNamedHeader = true → q.dbRequired = false)
  /-- It is the first named header row, and none is required. -/
  | optional (before after : List Row) (split : rows = before ++ r :: after)
      (named : r.isNamedHeader = true)
      (optional : ∀ q ∈ rows, q.isNamedHeader = true → q.dbRequired = false)
      (first : ∀ q ∈ before, q.isNamedHeader = false)

/-- Joins on different columns are different texts. -/
theorem joinOn_inj {a b : String} : joinOn a = joinOn b ↔ a = b := by
  refine ⟨fun h => ?_, congrArg joinOn⟩
  have hlist := congrArg String.toList h
  simp only [joinOn, String.toList_append, List.append_assoc] at hlist
  have hlength : a.toList.length = b.toList.length := by
    have := congrArg List.length hlist
    simp only [List.length_append] at this
    omega
  exact String.toList_injective (List.append_inj_left hlist hlength)

/-! ## The key row -/

/-- The row that is looked for: a required one if there is one. -/
def keyRow? (rows : List Row) : Option Row :=
  (rows.find? (fun r => r.isNamedHeader && r.dbRequired)).or (rows.find? Row.isNamedHeader)

theorem primaryKey_filter (rows : List Row) :
    primaryKey (rows.filter Row.isNamedHeader) =
      ((keyRow? rows).map (·.fieldName.words)).getD "ID" := by
  have hrequired : (fun r : Row => decide (r.isNamedHeader = true ∧ r.dbRequired = true)) =
      fun r => r.isNamedHeader && r.dbRequired := by
    funext r
    simp
  rw [primaryKey, List.find?_filter, List.head?_filter, keyRow?, hrequired]
  cases rows.find? (fun r => r.isNamedHeader && r.dbRequired) <;> rfl

theorem keyRow?_eq_some {r : Row} : keyRow? rows = some r ↔ IsKeyRow rows r := by
  have hnone : rows.find? (fun r => r.isNamedHeader && r.dbRequired) = none ↔
      ∀ q ∈ rows, q.isNamedHeader = true → q.dbRequired = false := by
    simp [List.find?_eq_none]
  have hpassed : ∀ q : Row, (!(q.isNamedHeader && q.dbRequired)) = true ↔
      (q.isNamedHeader = true → q.dbRequired = false) := by
    intro q
    cases q.isNamedHeader <;> simp
  rw [keyRow?, Option.or_eq_some_iff, hnone, List.find?_eq_some_iff_append,
    List.find?_eq_some_iff_append]
  constructor
  · rintro (⟨hr, before, after, rfl, hfirst⟩ | ⟨hoptional, hr, before, after, rfl, hfirst⟩)
    · obtain ⟨hnamed, hrequired⟩ := Bool.and_eq_true_iff.mp hr
      exact .required before after rfl hnamed hrequired
        fun q hq => (hpassed q).mp (hfirst q hq)
    · exact .optional before after rfl hr hoptional (by simpa using hfirst)
  · rintro (⟨before, after, rfl, hnamed, hrequired, hfirst⟩ |
      ⟨before, after, rfl, hnamed, hoptional, hfirst⟩)
    · exact Or.inl ⟨Bool.and_eq_true_iff.mpr ⟨hnamed, hrequired⟩, before, after, rfl,
        fun q hq => (hpassed q).mpr (hfirst q hq)⟩
    · exact Or.inr ⟨hoptional, hnamed, before, after, rfl, by simpa using hfirst⟩

theorem exists_isKeyRow (h : ∃ r ∈ rows, r.isNamedHeader = true) : ∃ r, IsKeyRow rows r := by
  obtain ⟨r, hr, hnamed⟩ := h
  have hfound : (rows.find? Row.isNamedHeader).isSome = true :=
    List.find?_isSome.mpr ⟨r, hr, hnamed⟩
  have hsome : (keyRow? rows).isSome = true := by
    rw [keyRow?, Option.isSome_or, hfound, Bool.or_true]
  obtain ⟨key, hkey⟩ := Option.isSome_iff_exists.mp hsome
  exact ⟨key, keyRow?_eq_some.mp hkey⟩

theorem whereclause_of_mem_definitions {title : String} {d : RelationshipDefinition}
    (h : d ∈ (definitions s m title rows).2) :
    d.whereclause = joinOn (Text.lower (primaryKey (rows.filter Row.isNamedHeader))) := by
  obtain ⟨g, -, rfl⟩ := List.mem_map.mp h
  rfl

/-- **Relationships join on the key row.** Where the primary record has a named data field in the
header, there is a key row, and every relationship joins its table on the name of that row in lower
case. This is the name of a field of the primary record only if the key row has such a name. -/
theorem relationships_join (s : Settings) (m : Metadata) (title : String) {rows : List Row}
    (hprimary : ∃ q ∈ rows, q.isPrimaryField = true) :
    (∃ r, IsKeyRow rows r) ∧
      ∀ r, IsKeyRow rows r → ∀ d ∈ (definitions s m title rows).2,
        d.whereclause = joinOn (Text.lower r.fieldName.words) ∧
        ((∃ q ∈ rows, q.isPrimaryField = true ∧
            d.whereclause = joinOn (Text.lower q.fieldName.words)) ↔
          ∃ q ∈ rows, q.isPrimaryField = true ∧
            Text.lower q.fieldName.words = Text.lower r.fieldName.words) := by
  constructor
  · obtain ⟨q, hq, hprimary⟩ := hprimary
    simp only [Row.isPrimaryField, Bool.and_eq_true] at hprimary
    exact exists_isKeyRow ⟨q, hq, hprimary.1.1.1⟩
  intro r hr d hd
  have hjoin : d.whereclause = joinOn (Text.lower r.fieldName.words) := by
    rw [whereclause_of_mem_definitions hd, primaryKey_filter, keyRow?_eq_some.mpr hr]
    rfl
  refine ⟨hjoin, ?_⟩
  rw [hjoin]
  simp only [joinOn_inj, eq_comm]

/-- A required field is the key also behind a button. -/
theorem relationships_join_required :
    let m : Metadata := { recordName := .text "SR" }
    let no : Row := { fieldName := .text "ZZ_NO", label := .text "No", dbRequired := true }
    let rows : List Row :=
      [{ fieldName := .text "ZZ_APPROVE", label := .text "Approve", control := .pushButton }, no,
       { fieldName := .text "ZZ_QTY", label := .text "Qty", area := .detail,
         relationship := .text "LINES" }]
    (∃ q ∈ rows, q.isPrimaryField = true) ∧ IsKeyRow rows no ∧
      ∀ d ∈ (definitions .builtin m "" rows).2, d.whereclause = "zz_no = :zz_no" ∧
        ∃ q ∈ rows, q.isPrimaryField = true ∧
          d.whereclause = joinOn (Text.lower q.fieldName.words) := by
  intro m no rows
  have hprimary : ∃ q ∈ rows, q.isPrimaryField = true := ⟨no, by simp [rows], by decide⟩
  have hkey : IsKeyRow rows no :=
    .required (rows.take 1) (rows.drop 2) rfl (by decide) rfl (by decide)
  refine ⟨hprimary, hkey, fun d hd => ?_⟩
  obtain ⟨hjoin, hiff⟩ := (relationships_join .builtin m "" hprimary).2 no hkey d hd
  exact ⟨hjoin.trans (by decide +kernel), hiff.mpr ⟨no, by simp [rows], by decide, rfl⟩⟩

/-- Sound rows may have a button in the place of the key. -/
theorem relationships_join_button :
    let m : Metadata := { recordName := .text "SR" }
    let rows : List Row :=
      [{ fieldName := .text "ZZ_APPROVE", label := .text "Approve", control := .pushButton },
       { fieldName := .text "ZZ_NO", label := .text "No" },
       { fieldName := .text "ZZ_QTY", label := .text "Qty", area := .detail,
         relationship := .text "LINES" }]
    Row.requireSound (some m) rows = .ok () ∧ (∃ q ∈ rows, q.isPrimaryField = true) ∧
      ∃ d ∈ (definitions .builtin m "" rows).2, d.whereclause = "zz_approve = :zz_approve" ∧
        ¬ ∃ q ∈ rows, q.isPrimaryField = true ∧
          d.whereclause = joinOn (Text.lower q.fieldName.words) := by
  intro m rows
  exact ⟨Row.requireSound_eq_ok_iff.mpr (by decide +kernel), by decide +kernel, by decide +kernel⟩

end Resource

end Formwork
