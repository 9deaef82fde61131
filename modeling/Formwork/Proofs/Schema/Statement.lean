import Formwork.Proofs.Classes
import Formwork.Proofs.Limit
import Formwork.Schema.Statement

/-!
# The statements of rows

A statement stages one attribute, told by its object and its name. The attributes that are staged
are those of the custom rows whose object is known, each once.
-/
namespace Formwork.Schema

variable {s : Settings} {m : Metadata} {rows : List Row}

/-- Object and name of the attribute that a statement stages. -/
def Statement.key (t : Statement) : String × String :=
  (t.objectName, t.attributeName)

namespace Statement

def title (t : Statement) : String :=
  (t.row.title.orElse t.row.label).words

def remarks (t : Statement) : String :=
  t.row.label.words

/-- The values of an INSERT from the third one on, as SQL texts. -/
def laterValues (t : Statement) : List String :=
  [toString t.number, literal t.attributeName, "'" ++ t.typeWord ++ "'", toString t.length,
    toString t.row.scale, literal t.title, literal t.remarks, bit t.row.dbRequired,
    bit t.row.persistent, "1",
    if t.row.defaultValue.truthy then literal t.row.defaultValue.words else "NULL", "'I'"]

theorem values_eq (t : Statement) :
    t.values = literal t.objectName :: literal t.attributeName :: t.laterValues := rfl

/-- The text between the table of an INSERT and the word before its values. -/
def columnsText : List Char :=
  ' ' :: '(' :: ([',', ' '].intercalate (columns.map String.toList) ++ [')', '\n'])

/-- The text of an INSERT before its values. -/
def insertText : List Char :=
  "INSERT".toList ++ ' ' :: ("INTO".toList ++ ' ' :: ("MAXATTRIBUTECFG".toList ++
    (columnsText ++ ("VALUES".toList ++ [' ']))))

theorem toList_sql (t : Statement) : t.sql.toList =
    insertText ++ '(' :: ([',', ' '].intercalate (t.values.map String.toList) ++ [')', ';']) := by
  unfold sql insertText columnsText
  simp only [String.toList_append, String.toList_intercalate, List.append_assoc, List.cons_append]
  repeat rw [String.toList_ofList]
  simp only [List.cons_append, List.nil_append]

end Statement

def decimalDigits : List Char :=
  "0123456789".toList

theorem mem_decimalDigits {c : Char} (h : c.isDigit = true) : c ∈ decimalDigits := by
  have hcode : ∀ n : Nat, n < 10 → Char.ofNat (48 + n) ∈ decimalDigits := by decide
  rw [Char.isDigit, Bool.and_eq_true, decide_eq_true_eq, decide_eq_true_eq] at h
  have hfirst : 48 ≤ c.toNat := h.1
  have hlast : c.toNat ≤ 57 := h.2
  rw [← Char.ofNat_toNat c, ← Nat.add_sub_of_le hfirst]
  exact hcode _ (by omega)

/-- A number is written with digits, behind a minus if it is negative. -/
theorem exists_digits (i : Int) : ∃ digits, digits ≠ [] ∧ (∀ c ∈ digits, c ∈ decimalDigits) ∧
    ((toString i).toList = digits ∨ (toString i).toList = '-' :: digits) := by
  have hdigits : ∀ n : Nat, ∀ c ∈ Nat.toDigits 10 n, c ∈ decimalDigits :=
    fun n c hc => mem_decimalDigits (Nat.isDigit_of_mem_toDigits (by decide) (by decide) hc)
  cases i with
  | ofNat n =>
    refine ⟨Nat.toDigits 10 n, Nat.toDigits_ne_nil, hdigits n, Or.inl ?_⟩
    exact String.toList_ofList
  | negSucc n =>
    refine ⟨Nat.toDigits 10 (n + 1), Nat.toDigits_ne_nil, hdigits _, Or.inr ?_⟩
    exact (String.toList_append).trans (congrArg _ String.toList_ofList)

/-- The custom rows whose object is known. -/
def stagedRows (s : Settings) (m : Metadata) (rows : List Row) : List Row :=
  (rows.filter (Row.isCustom s (some m))).filter (fun r => r.target m.recordName.words != "")

theorem mem_stagedRows {r : Row} :
    r ∈ stagedRows s m rows ↔
      r ∈ rows ∧ r.isCustom s (some m) = true ∧ r.target m.recordName.words ≠ "" := by
  simp only [stagedRows, List.mem_filter, bne_iff_ne, and_assoc]

/-- A statement stages the attribute that its row stands for. -/
theorem key_of_mem_statements {t : Statement} (h : t ∈ (statements s m rows).1) :
    t.key = attributeKey m.recordName.words t.row := by
  obtain ⟨r, -, rfl⟩ := List.mem_map.mp h
  rfl

theorem map_key_statements :
    (statements s m rows).1.map Statement.key =
      distinct ((stagedRows s m rows).map (attributeKey m.recordName.words)) := by
  rw [← map_firsts, statements, List.map_map]
  conv_rhs => rw [← List.zipIdx_map_fst 0 (firsts _ _), List.map_map]
  rfl

theorem mem_map_key_statements {k : String × String} :
    k ∈ (statements s m rows).1.map Statement.key ↔
      ∃ r ∈ stagedRows s m rows, attributeKey m.recordName.words r = k := by
  rw [map_key_statements, mem_distinct, List.mem_map]

/-! ## Statements that can be written -/

theorem okIff_stage (s : Settings) (m : Metadata) (rows : List Row) :
    OkIff (stage s m rows) (∀ t ∈ (statements s m rows).1, t.isOverlong = false) :=
  (OkIff.guard _ _).congr (by simp only [List.any_eq_false, Bool.not_eq_true])

theorem eq_of_stage {staged : List Statement × List Value} (h : stage s m rows = .ok staged) :
    staged = statements s m rows := by
  rw [stage] at h
  split at h
  · cases h
  · exact (Except.ok.inj h).symm

end Formwork.Schema
