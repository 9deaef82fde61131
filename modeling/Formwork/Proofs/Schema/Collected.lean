import Mathlib.Data.List.Induction
import Formwork.Proofs.Schema.Statement

/-!
# Statements collected row by row

The statements of rows can be collected in one walk along the rows: a custom row whose object is
known adds a statement unless its attribute has one already, a custom row whose object is not known
adds its name to the report, and any other row adds nothing. What the walk keeps at every row gives
what is known of the statements in the end: attributes and numbers without repetition, and the first
row of an attribute behind each of them.
-/
namespace Formwork.Schema

variable {s : Settings} {m : Metadata} {rows : List Row}

/-- Whether a row stands for an attribute that is staged: it is custom and its object is known. -/
def isStaged (s : Settings) (m : Metadata) (r : Row) : Bool :=
  r.isCustom s (some m) && r.target m.recordName.words != ""

/-- Whether only the name of a row is reported: it is custom and its object is not known. -/
def isSkipped (s : Settings) (m : Metadata) (r : Row) : Bool :=
  r.isCustom s (some m) && r.target m.recordName.words == ""

/-- The row at a place stands for an attribute that is staged, and no row before it does. -/
def IsFirst (s : Settings) (m : Metadata) (rows : List Row) (i : Nat) (r : Row) : Prop :=
  rows[i]? = some r ∧ isStaged s m r = true ∧
    ∀ j q, rows[j]? = some q → isStaged s m q = true →
      attributeKey m.recordName.words q = attributeKey m.recordName.words r → i ≤ j

/-- The statement that a row gives under a number. -/
def statementOf (m : Metadata) (number : Nat) (r : Row) : Statement :=
  { objectName := r.target m.recordName.words
    attributeName := Text.upper r.fieldName.words
    number
    row := r }

/-- Statements and reported names after one more row. -/
def addRow (s : Settings) (m : Metadata) (c : List Statement × List Value) (r : Row) :
    List Statement × List Value :=
  if isSkipped s m r then (c.1, c.2 ++ [r.fieldName])
  else if isStaged s m r && !(c.1.map Statement.key).contains (attributeKey m.recordName.words r)
  then (c.1 ++ [statementOf m (firstNumber + c.1.length) r], c.2)
  else c

/-- Statements come one after the other from the rows that are first for their attributes. -/
structure Placed (s : Settings) (m : Metadata) (rows : List Row) (places : List Nat)
    (ts : List Statement) : Prop where
  increasing : places.Pairwise (· < ·)
  mem_iff : ∀ i, i ∈ places ↔ ∃ r, IsFirst s m rows i r
  built : places.map (fun i => rows[i]?) = ts.map (fun t => some t.row)

/-- Statements and reported names are those that rows call for. -/
structure Collects (s : Settings) (m : Metadata) (rows : List Row)
    (c : List Statement × List Value) : Prop where
  nodup : (c.1.map Statement.key).Nodup
  numbered : c.1.map (·.number) = List.range' firstNumber c.1.length
  mem_keys : ∀ k, k ∈ c.1.map Statement.key ↔
    ∃ r ∈ rows, isStaged s m r = true ∧ attributeKey m.recordName.words r = k
  placed : ∃ places, Placed s m rows places c.1
  skipped : c.2 = (rows.filter (isSkipped s m)).map (·.fieldName)

theorem stagedRows_eq (rows : List Row) : stagedRows s m rows = rows.filter (isStaged s m) := by
  rw [stagedRows, List.filter_filter]
  exact List.filter_congr fun r _ => Bool.and_comm _ _

theorem isStaged_iff {r : Row} : isStaged s m r = true ↔
    r.isCustom s (some m) = true ∧ r.target m.recordName.words ≠ "" := by
  rw [isStaged, Bool.and_eq_true, bne_iff_ne]

theorem isStaged_of_isSkipped {r : Row} (h : isSkipped s m r = true) : isStaged s m r = false := by
  rw [isSkipped, Bool.and_eq_true, beq_iff_eq] at h
  rw [isStaged, h.2]
  simp

/-! ## One more row -/

theorem statements_fst (rows : List Row) :
    (statements s m rows).1 =
      (firsts (attributeKey m.recordName.words) (rows.filter (isStaged s m))).zipIdx.map
        (fun x => statementOf m (firstNumber + x.2) x.1) := by
  rw [← stagedRows_eq]
  rfl

theorem eq_statementOf {t : Statement} (h : t ∈ (statements s m rows).1) :
    t = statementOf m t.number t.row := by
  rw [statements_fst] at h
  obtain ⟨x, -, rfl⟩ := List.mem_map.mp h
  rfl

theorem binding_of_mem_statements {t : Statement} (h : t ∈ (statements s m rows).1) :
    t.binding =
      t.row.target m.recordName.words ++ "." ++ Text.upper t.row.fieldName.words := by
  rw [eq_statementOf h]
  rfl

theorem statements_snd (rows : List Row) :
    (statements s m rows).2 = (rows.filter (isSkipped s m)).map (·.fieldName) := by
  show ((rows.filter _).filter _).map _ = _
  rw [List.filter_filter]
  congr 1
  exact List.filter_congr fun r _ => Bool.and_comm _ _

/-- The walk goes on with each row. -/
theorem statements_concat (rows : List Row) (r : Row) :
    statements s m (rows ++ [r]) = addRow s m (statements s m rows) r := by
  have hrow : ∀ p : Row → Bool, (rows ++ [r]).filter p =
      rows.filter p ++ if p r then [r] else [] := by
    intro p
    rw [List.filter_append]
    cases hp : p r <;> simp [hp]
  refine Prod.ext ?_ ?_
  · rw [statements_fst, hrow, addRow]
    by_cases hskipped : isSkipped s m r = true
    · rw [if_pos hskipped, isStaged_of_isSkipped hskipped, if_neg Bool.false_ne_true,
        List.append_nil, statements_fst]
    rw [if_neg hskipped]
    by_cases hstaged : isStaged s m r = true
    · -- The attribute is new exactly if no row before it stands for it.
      have hkeys : attributeKey m.recordName.words r ∈
          (rows.filter (isStaged s m)).map (attributeKey m.recordName.words) ↔
            attributeKey m.recordName.words r ∈ (statements s m rows).1.map Statement.key := by
        rw [map_key_statements, mem_distinct, stagedRows_eq]
      have hlength : (statements s m rows).1.length =
          (firsts (attributeKey m.recordName.words) (rows.filter (isStaged s m))).length := by
        rw [statements_fst, List.length_map, List.length_zipIdx]
      rw [if_pos hstaged, firsts_concat]
      by_cases hseen : attributeKey m.recordName.words r ∈
          (statements s m rows).1.map Statement.key
      · rw [if_pos (hkeys.mpr hseen), if_neg (by simpa using fun _ => hseen), statements_fst]
      · rw [if_neg (fun h => hseen (hkeys.mp h)), if_pos (by simpa [hstaged] using hseen),
          List.zipIdx_append, List.map_append, ← statements_fst, hlength]
        simp
    · rw [if_neg hstaged, List.append_nil, if_neg (by simp [hstaged]), statements_fst]
  · rw [statements_snd, hrow, addRow]
    by_cases hskipped : isSkipped s m r = true
    · rw [if_pos hskipped, if_pos hskipped, List.map_append, statements_snd]
      rfl
    · rw [if_neg hskipped, if_neg hskipped, List.append_nil, ← statements_snd]
      split <;> rfl

theorem statements_eq_foldl (rows : List Row) :
    statements s m rows = rows.foldl (addRow s m) ([], []) := by
  induction rows using List.reverseRecOn with
  | nil => rfl
  | append_singleton rows r ih =>
    rw [statements_concat, ih, List.foldl_append, List.foldl_cons, List.foldl_nil]

/-! ## What the walk keeps -/

theorem collects_nil : Collects s m [] ([], []) where
  nodup := List.nodup_nil
  numbered := rfl
  mem_keys := by simp
  placed := ⟨[], List.Pairwise.nil, by simp [IsFirst], rfl⟩
  skipped := rfl

theorem isFirst_concat_of_lt {i : Nat} (hi : i < rows.length) (r q : Row) :
    IsFirst s m (rows ++ [r]) i q ↔ IsFirst s m rows i q := by
  rw [IsFirst, IsFirst, List.getElem?_append_left hi]
  refine and_congr_right fun _ => and_congr_right fun _ => ?_
  constructor
  · intro h j p hp
    have hj : j < rows.length := (List.getElem?_eq_some_iff.mp hp).1
    exact h j p (by rw [List.getElem?_append_left hj, hp])
  · intro h j p hp hstaged hkey
    by_cases hj : j < rows.length
    · rw [List.getElem?_append_left hj] at hp
      exact h j p hp hstaged hkey
    · omega

/-- The last row is first for its attribute if no row before it stands for it. -/
theorem isFirst_concat_length (r q : Row) :
    IsFirst s m (rows ++ [r]) rows.length q ↔
      q = r ∧ isStaged s m r = true ∧ ∀ p ∈ rows, isStaged s m p = true →
        attributeKey m.recordName.words p ≠ attributeKey m.recordName.words r := by
  have hlast : (rows ++ [r])[rows.length]? = some r := by simp
  rw [IsFirst, hlast]
  constructor
  · rintro ⟨hr, hstaged, hfirst⟩
    obtain rfl := Option.some.inj hr
    refine ⟨rfl, hstaged, fun p hp hp' hkey => ?_⟩
    obtain ⟨j, hj⟩ := List.getElem?_of_mem hp
    have hlt : j < rows.length := (List.getElem?_eq_some_iff.mp hj).1
    have hle := hfirst j p (by rw [List.getElem?_append_left hlt, hj]) hp' hkey
    omega
  · rintro ⟨rfl, hstaged, hnew⟩
    refine ⟨rfl, hstaged, fun j p hp hp' hkey => ?_⟩
    by_contra hlt
    have hlt : j < rows.length := by omega
    rw [List.getElem?_append_left hlt] at hp
    exact hnew p (List.mem_of_getElem? hp) hp' hkey

/-- The places of first rows, after one more row. -/
theorem exists_isFirst_concat {i : Nat} (r : Row) :
    (∃ q, IsFirst s m (rows ++ [r]) i q) ↔ (∃ q, IsFirst s m rows i q) ∨
      (i = rows.length ∧ isStaged s m r = true ∧ ∀ p ∈ rows, isStaged s m p = true →
        attributeKey m.recordName.words p ≠ attributeKey m.recordName.words r) := by
  have hbound : ∀ {l : List Row} {q : Row}, IsFirst s m l i q → i < l.length :=
    fun h => (List.getElem?_eq_some_iff.mp h.1).1
  rcases Nat.lt_trichotomy i rows.length with hi | rfl | hi
  · simp only [isFirst_concat_of_lt hi, Nat.ne_of_lt hi, false_and, or_false]
  · simp only [isFirst_concat_length, exists_eq_left, true_and]
    refine (or_iff_right ?_).symm
    rintro ⟨q, hq⟩
    exact Nat.lt_irrefl _ (hbound hq)
  · have hnone : ¬ ∃ q, IsFirst s m (rows ++ [r]) i q := by
      rintro ⟨q, hq⟩
      have := hbound hq
      rw [List.length_append, List.length_singleton] at this
      omega
    have hnone' : ¬ ∃ q, IsFirst s m rows i q := by
      rintro ⟨q, hq⟩
      have := hbound hq
      omega
    simp only [hnone, hnone', Nat.ne_of_gt hi, false_and, or_false]

theorem Placed.built_concat {places : List Nat} {ts : List Statement}
    (h : Placed s m rows places ts) (r : Row) :
    places.map (fun i => (rows ++ [r])[i]?) = ts.map (fun t => some t.row) := by
  rw [← h.built]
  refine List.map_congr_left fun i hi => ?_
  obtain ⟨q, hq⟩ := (h.mem_iff i).mp hi
  exact List.getElem?_append_left (List.getElem?_eq_some_iff.mp hq.1).1

/-- A row that is not first for an attribute changes no places. -/
theorem Placed.pass {places : List Nat} {ts : List Statement} (h : Placed s m rows places ts)
    {r : Row} (hr : isStaged s m r = true → ∃ p ∈ rows, isStaged s m p = true ∧
      attributeKey m.recordName.words p = attributeKey m.recordName.words r) :
    Placed s m (rows ++ [r]) places ts where
  increasing := h.increasing
  mem_iff := by
    intro i
    rw [h.mem_iff, exists_isFirst_concat]
    refine (or_iff_left ?_).symm
    rintro ⟨-, hstaged, hnew⟩
    obtain ⟨p, hp, hp', hkey⟩ := hr hstaged
    exact hnew p hp hp' hkey
  built := h.built_concat r

/-- A row that is first for its attribute comes last. -/
theorem Placed.add {places : List Nat} {ts : List Statement} (h : Placed s m rows places ts)
    {r : Row} (hstaged : isStaged s m r = true) (hnew : ∀ p ∈ rows, isStaged s m p = true →
      attributeKey m.recordName.words p ≠ attributeKey m.recordName.words r) (number : Nat) :
    Placed s m (rows ++ [r]) (places ++ [rows.length]) (ts ++ [statementOf m number r]) where
  increasing := by
    refine List.pairwise_append.mpr ⟨h.increasing, List.pairwise_singleton _ _, ?_⟩
    intro i hi j hj
    obtain rfl := List.mem_singleton.mp hj
    obtain ⟨q, hq⟩ := (h.mem_iff i).mp hi
    exact (List.getElem?_eq_some_iff.mp hq.1).1
  mem_iff := by
    intro i
    rw [List.mem_append, List.mem_singleton, h.mem_iff, exists_isFirst_concat,
      and_iff_left ⟨hstaged, hnew⟩]
  built := by
    rw [List.map_append, List.map_append, h.built_concat]
    simp [statementOf]

/-- What holds of the walk so far holds after one more row. -/
theorem Collects.addRow {c : List Statement × List Value} (h : Collects s m rows c) (r : Row) :
    Collects s m (rows ++ [r]) (addRow s m c r) := by
  obtain ⟨places, hplaced⟩ := h.placed
  have hskipped : ((rows ++ [r]).filter (isSkipped s m)).map (·.fieldName) =
      c.2 ++ if isSkipped s m r then [r.fieldName] else [] := by
    rw [h.skipped, List.filter_append, List.map_append]
    cases hr : isSkipped s m r <;> simp [hr]
  have hkeys : ∀ k, (∃ p ∈ rows ++ [r], isStaged s m p = true ∧
      attributeKey m.recordName.words p = k) ↔ k ∈ c.1.map Statement.key ∨
        (isStaged s m r = true ∧ attributeKey m.recordName.words r = k) := by
    intro k
    rw [h.mem_keys]
    simp only [List.mem_append, List.mem_singleton, or_and_right, exists_or, exists_eq_left]
  unfold Schema.addRow
  split
  · next hskip =>
    have hnot := isStaged_of_isSkipped hskip
    refine ⟨h.nodup, h.numbered, fun k => ?_, ⟨places, hplaced.pass (by simp [hnot])⟩, ?_⟩
    · rw [hkeys, hnot]
      simp
    · rw [hskipped, if_pos hskip]
  · next hnot =>
    rw [if_neg hnot, List.append_nil] at hskipped
    split
    · next hadds =>
      simp only [Bool.and_eq_true, Bool.not_eq_true', List.contains_eq_mem,
        decide_eq_false_iff_not] at hadds
      obtain ⟨hstaged, hfresh⟩ := hadds
      refine ⟨?_, ?_, fun k => ?_, ⟨_, hplaced.add hstaged ?_ _⟩, hskipped.symm⟩
      · rw [List.map_append, List.map_singleton]
        rw [← List.concat_eq_append]
        exact h.nodup.concat hfresh
      · rw [List.map_append, h.numbered, List.length_append, List.length_singleton,
          List.range'_concat]
        simp [statementOf]
      · rw [hkeys, List.map_append, List.mem_append, List.map_singleton, List.mem_singleton,
          and_iff_right hstaged]
        exact or_congr_right eq_comm
      · intro p hp hp' hkey
        exact hfresh ((h.mem_keys _).mpr ⟨p, hp, hp', hkey⟩)
    · next hkeeps =>
      have hold : isStaged s m r = true →
          attributeKey m.recordName.words r ∈ c.1.map Statement.key := by
        intro hstaged
        by_contra hfresh
        exact hkeeps (by simpa [hstaged] using hfresh)
      refine ⟨h.nodup, h.numbered, fun k => ?_, ⟨places, hplaced.pass fun hstaged => ?_⟩,
        hskipped.symm⟩
      · rw [hkeys]
        refine (or_iff_left_of_imp ?_).symm
        rintro ⟨hstaged, rfl⟩
        exact hold hstaged
      · exact (h.mem_keys _).mp (hold hstaged)

theorem Collects.foldl {c : List Statement × List Value} (h : Collects s m rows c)
    (more : List Row) : Collects s m (rows ++ more) (more.foldl (Schema.addRow s m) c) := by
  induction more generalizing rows c with
  | nil => rwa [List.append_nil]
  | cons r more ih =>
    rw [List.append_cons]
    exact ih (h.addRow r)

theorem collects_statements (s : Settings) (m : Metadata) (rows : List Row) :
    Collects s m rows (statements s m rows) := by
  rw [statements_eq_foldl]
  exact collects_nil.foldl rows

/-- A statement is built from the row that is first for its attribute. -/
theorem exists_isFirst_of_mem_statements {t : Statement} (h : t ∈ (statements s m rows).1) :
    ∃ i, IsFirst s m rows i t.row := by
  obtain ⟨places, hplaced⟩ := (collects_statements s m rows).placed
  have hrow : some t.row ∈ (statements s m rows).1.map (fun t => some t.row) :=
    List.mem_map_of_mem h
  rw [← hplaced.built] at hrow
  obtain ⟨i, hi, hrow⟩ := List.mem_map.mp hrow
  obtain ⟨r, hr⟩ := (hplaced.mem_iff i).mp hi
  obtain rfl := Option.some.inj (hr.1.symm.trans hrow)
  exact ⟨i, hr⟩

/-- Every row that is first for its attribute has a statement. -/
theorem IsFirst.exists_statement {i : Nat} {r : Row} (h : IsFirst s m rows i r) :
    ∃ t ∈ (statements s m rows).1, t.row = r := by
  obtain ⟨places, hplaced⟩ := (collects_statements s m rows).placed
  have hrow : some r ∈ places.map (fun i => rows[i]?) :=
    List.mem_map.mpr ⟨i, (hplaced.mem_iff i).mpr ⟨r, h⟩, h.1⟩
  rw [hplaced.built] at hrow
  obtain ⟨t, ht, heq⟩ := List.mem_map.mp hrow
  exact ⟨t, ht, Option.some.inj heq⟩

/-- The numbers of the statement that a row gives can be written. -/
def Fits (m : Metadata) (r : Row) : Prop :=
  (statementOf m firstNumber r).isOverlong = false

-- A row of the vendor, one behind a relationship and a second row of an attribute give no number.
example :
    let rows : List Row :=
      [{ fieldName := .text "ZZ_A" }, { fieldName := .text "STATUS" },
       { fieldName := .text "ZZ_B", relationship := .text "OWNER" },
       { fieldName := .text "zz_a", area := .list },
       { fieldName := .text "ZZ_B", objectName := .text "person" }]
    let (ts, skipped) := statements .builtin { recordName := .text "sr" } rows
    ts.map (fun t => (t.key, t.number)) = [(("SR", "ZZ_A"), 1000), (("PERSON", "ZZ_B"), 1001)] ∧
      skipped = [.text "ZZ_B"] := by
  decide +kernel

end Formwork.Schema
