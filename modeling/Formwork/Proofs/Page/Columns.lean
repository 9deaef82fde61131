import Mathlib.Data.List.Sort
import Formwork.Page.Section
import Formwork.Proofs.Classes

/-!
# The columns of a header

Where some field names a column, the columns are the fields of each number, by ascending numbers.
Otherwise they are filled one after the other. Either way every field stands in one column, and the
fields of a column keep their order.
-/
namespace Formwork.Page

/-- The number of the column in which a field stands where fields name columns. -/
def columnNumber (f : Field) : Int :=
  if 0 < f.column then f.column else 1

/-- The columns of the fields of a header. -/
structure IsColumns (height : Int) (fields : List Field) (columns : List (List Field)) : Prop where
  /-- Every field stands in the columns once. -/
  perm : columns.flatten.Perm fields
  /-- Where some field names a column, there is a column for every number that occurs. -/
  named : (∃ f ∈ fields, 0 < f.column) → ∃ numbers : List Int, numbers.Pairwise (· < ·) ∧
    (∀ n, n ∈ numbers ↔ ∃ f ∈ fields, columnNumber f = n) ∧
    columns = numbers.map (fun n => fields.filter (fun f => columnNumber f == n))
  /-- Where none does, every column but the last one is full. -/
  filled : (∀ f ∈ fields, f.column ≤ 0) → columns.flatten = fields ∧
    (∀ column ∈ columns, column ≠ [] ∧ (column.length : Int) ≤ height) ∧
    ∀ column ∈ columns.dropLast, (column.length : Int) = height

section Pieces

variable {α : Type} {height : Nat}

theorem pieces_nil (height : Nat) : pieces height ([] : List α) = [] := by
  cases height <;> simp [pieces]

theorem flatten_pieces (h : 0 < height) (items : List α) :
    (pieces height items).flatten = items := by
  fun_induction pieces height items with
  | case1 => omega
  | case2 => rfl
  | case3 n a rest ih =>
    rw [List.flatten_cons, ih h, List.cons_append, List.take_append_drop]

theorem length_of_mem_pieces {items piece : List α} (h : piece ∈ pieces height items) :
    piece ≠ [] ∧ piece.length ≤ height := by
  fun_induction pieces height items with
  | case1 => cases h
  | case2 => cases h
  | case3 n a rest ih =>
    rcases List.mem_cons.mp h with rfl | h
    · refine ⟨List.cons_ne_nil _ _, ?_⟩
      rw [List.length_cons, List.length_take]
      omega
    · exact ih h

/-- A piece after which another one comes is full. -/
theorem length_of_mem_dropLast_pieces {items piece : List α}
    (h : piece ∈ (pieces height items).dropLast) :
    piece.length = height := by
  fun_induction pieces height items with
  | case1 => cases h
  | case2 => cases h
  | case3 n a rest ih =>
    cases hrest : rest.drop n with
    | nil =>
      rw [hrest, pieces_nil] at h
      cases h
    | cons b later =>
      have hlength : n < rest.length := by
        by_contra hnot
        rw [List.drop_eq_nil_of_le (by omega)] at hrest
        cases hrest
      have hmore : pieces (n + 1) (rest.drop n) ≠ [] := by
        rw [hrest, pieces]
        exact List.cons_ne_nil _ _
      rw [List.dropLast_cons_of_ne_nil hmore] at h
      rcases List.mem_cons.mp h with rfl | h
      · rw [List.length_cons, List.length_take]
        omega
      · exact ih h

end Pieces

variable {fields : List Field} {height : Int}

theorem namesColumn_eq_true : namesColumn fields = true ↔ ∃ f ∈ fields, 0 < f.column := by
  simp [namesColumn]

/-- The columns by number, each beside its number. -/
def numberedColumns (fields : List Field) : List (Int × List Field) :=
  (classes columnNumber fields).mergeSort (fun a b => decide (a.1 ≤ b.1))

theorem numberedColumns_perm (fields : List Field) :
    (numberedColumns fields).Perm (classes columnNumber fields) :=
  List.mergeSort_perm _ _

theorem pairwise_numbers (fields : List Field) :
    ((numberedColumns fields).map (·.1)).Pairwise (· < ·) := by
  have hsorted : ((numberedColumns fields).map (·.1)).Pairwise (· ≤ ·) := by
    rw [List.pairwise_map]
    refine (List.pairwise_mergeSort ?_ ?_ _).imp fun h => by simpa using h
    · intro a b c hab hbc
      simp only [decide_eq_true_eq] at *
      omega
    · intro a b
      simp only [Bool.or_eq_true, decide_eq_true_eq]
      omega
  have hnodup : ((numberedColumns fields).map (·.1)).Nodup := by
    rw [((numberedColumns_perm fields).map (·.1)).nodup_iff, map_fst_classes]
    exact nodup_distinct _
  refine (hsorted.and hnodup).imp fun h => ?_
  omega

theorem isColumns_named (h : ∃ f ∈ fields, 0 < f.column) :
    IsColumns height fields (namedColumns fields) where
  perm := by
    have hflat : (namedColumns fields).flatten = (numberedColumns fields).flatMap (·.2) := rfl
    rw [hflat]
    exact ((numberedColumns_perm fields).flatMap_right _).trans (flatMap_classes_perm _ _)
  named := by
    intro _
    refine ⟨(numberedColumns fields).map (·.1), pairwise_numbers fields, ?_, ?_⟩
    · intro n
      rw [((numberedColumns_perm fields).map (·.1)).mem_iff, map_fst_classes, mem_distinct,
        List.mem_map]
    · rw [List.map_map]
      refine List.map_congr_left fun column hcolumn => ?_
      obtain ⟨n, -, rfl⟩ := List.mem_map.mp ((numberedColumns_perm fields).mem_iff.mp hcolumn)
      rfl
  filled := by
    intro hnone
    obtain ⟨f, hf, hcolumn⟩ := h
    have := hnone f hf
    omega

theorem isColumns_columns (hheight : 1 ≤ height) (hne : fields ≠ []) :
    IsColumns height fields (columns height fields) := by
  rw [columns]
  split
  · next h => exact isColumns_named (namesColumn_eq_true.mp h)
  · next h =>
    have hnone : ¬ ∃ f ∈ fields, 0 < f.column := fun hsome => h (namesColumn_eq_true.mpr hsome)
    split
    · next hfit =>
      refine ⟨by rw [List.flatten_singleton], fun hsome => absurd hsome hnone, fun _ => ?_⟩
      refine ⟨List.flatten_singleton, ?_, ?_⟩
      · intro column hcolumn
        obtain rfl := List.mem_singleton.mp hcolumn
        exact ⟨hne, hfit⟩
      · intro column hcolumn
        cases hcolumn
    · have hpos : 0 < height.toNat := by omega
      have hflat := flatten_pieces hpos fields
      refine ⟨by rw [hflat], fun hsome => absurd hsome hnone, fun _ => ⟨hflat, ?_, ?_⟩⟩
      · intro column hcolumn
        obtain ⟨hcolumnne, hlength⟩ := length_of_mem_pieces hcolumn
        exact ⟨hcolumnne, by omega⟩
      · intro column hcolumn
        have hlength := length_of_mem_dropLast_pieces hcolumn
        omega

/-- Under any height no field stands in two columns. -/
theorem flatten_columns_subperm (height : Int) (fields : List Field) :
    (columns height fields).flatten.Subperm fields := by
  by_cases hnamed : namesColumn fields = true
  · rw [columns, if_pos hnamed]
    have hcolumns : IsColumns height fields (namedColumns fields) :=
      isColumns_named (namesColumn_eq_true.mp hnamed)
    exact hcolumns.perm.subperm
  · rw [columns, if_neg hnamed]
    split
    · rw [List.flatten_singleton]
    · by_cases hpos : 0 < height.toNat
      · rw [flatten_pieces hpos]
      · have hzero : height.toNat = 0 := by omega
        rw [hzero, pieces]
        exact List.nil_subperm

end Formwork.Page
