import Mathlib.Data.List.Basic
import Formwork.Proofs.Application.Placement
import Formwork.Proofs.Classes
import Formwork.Proofs.Row.Sound

/-!
# Reports of problems

The report of what blocks a generation names everything that does, each once: first the record, then
the absence of rows, then the problems of the rows by position. A name that is derived from a label
brings no problem with it.
-/
namespace Formwork

namespace RowProblem

def Affects (r : Row) : RowProblem → Prop
  | .noLabel => r.label.truthy = false
  | .noName => hasChinese r.label.words = true ∧ r.fieldName.truthy = false
  | .noArea => r.area = .other ""
  | .unknownArea area => r.area = .other area ∧ area ≠ ""
  | .noRelationship => r.area = .detail ∧ r.relationship.truthy = false
  | .negativeScale => r.maxType = .decimal ∧ r.scale < 0
  | .negativeLength => r.length < 0

/-- The place of a problem among those of its row. -/
def rank : RowProblem → Nat
  | .noLabel => 0
  | .noName => 1
  | .noArea => 2
  | .unknownArea _ => 2
  | .noRelationship => 3
  | .negativeScale => 4
  | .negativeLength => 5

end RowProblem

namespace Row

variable {r : Row} {p : RowProblem}

/-- The problems of the area of a row. -/
def areaProblems (r : Row) : List RowProblem :=
  if r.area.word == "" then [.noArea]
  else if isKnownArea r.area then [] else [.unknownArea r.area.word]

theorem mem_areaProblems : p ∈ r.areaProblems ↔
    (p = .noArea ∧ r.area = .other "") ∨
      ∃ area, p = .unknownArea area ∧ r.area = .other area ∧ area ≠ "" := by
  rw [areaProblems]
  cases harea : r.area with
  | other area =>
    by_cases hempty : area = ""
    · simp [Area.word, hempty]
    · simp [Area.word, isKnownArea, hempty]
  | _ => simp [Area.word, isKnownArea]

theorem mem_problems : p ∈ r.problems ↔ p.Affects r := by
  have harea : r.problems =
      (if r.label.truthy then [] else [.noLabel]) ++
      (if hasChinese r.label.words && !r.fieldName.truthy then [.noName] else []) ++
      r.areaProblems ++
      (if r.area == .detail && !r.relationship.truthy then [.noRelationship] else []) ++
      (if r.maxType == .decimal && r.scale < 0 then [.negativeScale] else []) ++
      (if r.length < 0 then [.negativeLength] else []) := rfl
  rw [harea]
  cases p <;> simp [RowProblem.Affects, mem_areaProblems]

theorem map_rank_ite (c : Prop) [Decidable c] (p : RowProblem) :
    ((if c then [p] else []).map RowProblem.rank).Sublist [p.rank] := by
  split <;> simp

theorem map_rank_problems (r : Row) :
    (r.problems.map RowProblem.rank).Sublist [0, 1, 2, 3, 4, 5] := by
  have hlabel : ((if r.label.truthy then [] else [.noLabel]).map RowProblem.rank).Sublist [0] := by
    split <;> simp [RowProblem.rank]
  have harea : (r.areaProblems.map RowProblem.rank).Sublist [2] := by
    rw [areaProblems]
    split
    · simp [RowProblem.rank]
    · split <;> simp [RowProblem.rank]
  have hname := map_rank_ite (hasChinese r.label.words && !r.fieldName.truthy) .noName
  have hrelationship := map_rank_ite (r.area == .detail && !r.relationship.truthy) .noRelationship
  have hscale := map_rank_ite (r.maxType == .decimal && r.scale < 0) .negativeScale
  have hlength := map_rank_ite (r.length < 0) .negativeLength
  -- Each check adds the problem of its rank, or none.
  simp only [problems, List.map_append]
  exact ((((hlabel.append hname).append harea).append hrelationship).append hscale).append hlength

/-- A row has no problem twice, and its problems stand in a fixed order. -/
theorem pairwise_problems (r : Row) : r.problems.Pairwise (fun p q => p.rank < q.rank) := by
  have hranks : (r.problems.map RowProblem.rank).Pairwise (· < ·) :=
    List.Pairwise.sublist (map_rank_problems r) (by decide)
  exact List.pairwise_map.mp hranks

/-- Deriving a name changes nothing but the name, and no name is taken away. -/
theorem affects_of_affects_resolve {mark : String} (h : p.Affects (r.resolve mark)) :
    p.Affects r := by
  rw [resolve] at h
  split at h
  · exact h
  · next hname =>
    cases p with
    -- The check for a name is the only one that reads it, and the row had none before.
    | noName => exact ⟨h.1, by simpa using hname⟩
    | _ => exact h

theorem problems_resolve (mark : String) (h : r.problems = []) :
    (r.resolve mark).problems = [] := by
  rw [List.eq_nil_iff_forall_not_mem] at h ⊢
  intro p hp
  exact h p (mem_problems.mpr (affects_of_affects_resolve (mem_problems.mp hp)))

end Row

namespace Blocking

/-- The name by which a report calls a row: its own, or else its label. -/
def nameOf (r : Row) : String :=
  (r.fieldName.orElse (r.label.orElse (.text "unnamed"))).plain

/-- A reason to generate nothing is there. -/
def Holds (m : Metadata) (rows : List Row) : Blocking → Prop
  | .noRecordName => ∀ c ∈ m.recordName.words.toList, Text.isBlank c = true
  | .noRows => rows = []
  | .row number name p =>
    ∃ i r, rows[i]? = some r ∧ number = i + 1 ∧ name = nameOf r ∧ p.Affects r

/-- The place of a reason in a report. -/
def place : Blocking → Nat × Nat
  | .noRecordName => (0, 0)
  | .noRows => (0, 1)
  | .row number _ p => (number, p.rank)

def Before (b b' : Blocking) : Prop :=
  b.place.1 < b'.place.1 ∨ b.place.1 = b'.place.1 ∧ b.place.2 < b'.place.2

end Blocking

/-- The reasons to generate nothing, by their places. No two stand at one place. -/
structure IsReport (m : Metadata) (rows : List Row) (problems : List Blocking) : Prop where
  mem_iff : ∀ b, b ∈ problems ↔ b.Holds m rows
  ordered : problems.Pairwise Blocking.Before

theorem IsReport.ne_nil_iff {m : Metadata} {rows : List Row} {problems : List Blocking}
    (h : IsReport m rows problems) : problems ≠ [] ↔
      (∀ c ∈ m.recordName.words.toList, Text.isBlank c = true) ∨ rows = [] ∨
        ∃ r ∈ rows, ∃ p : RowProblem, p.Affects r := by
  have hmem : problems ≠ [] ↔ ∃ b : Blocking, b.Holds m rows := by
    simp only [ne_eq, List.eq_nil_iff_forall_not_mem, h.mem_iff, not_forall, not_not]
  rw [hmem]
  constructor
  · rintro ⟨b, hb⟩
    cases b with
    | noRecordName => exact Or.inl hb
    | noRows => exact Or.inr (Or.inl hb)
    | row number name p =>
      obtain ⟨i, r, hr, -, -, hp⟩ := hb
      exact Or.inr (Or.inr ⟨r, List.mem_of_getElem? hr, p, hp⟩)
  · rintro (hrecord | hrows | ⟨r, hr, p, hp⟩)
    · exact ⟨.noRecordName, hrecord⟩
    · exact ⟨.noRows, hrows⟩
    · obtain ⟨i, hi⟩ := List.getElem?_of_mem hr
      exact ⟨.row (i + 1) (Blocking.nameOf r) p, i, r, hi, rfl, rfl, hp⟩

namespace Row

variable {m : Metadata} {rows : List Row}

/-- The reasons that single rows give. -/
def rowReports (rows : List Row) : List Blocking :=
  rows.zipIdx.flatMap (fun (r, i) => r.problems.map (.row (i + 1) (Blocking.nameOf r)))

theorem mem_rowReports {b : Blocking} : b ∈ rowReports rows ↔
    ∃ i r p, rows[i]? = some r ∧ p ∈ r.problems ∧ b = .row (i + 1) (Blocking.nameOf r) p := by
  simp only [rowReports, List.mem_flatMap, List.mem_map, Prod.exists, List.mem_zipIdx_iff_getElem?]
  constructor
  · rintro ⟨r, i, hr, p, hp, rfl⟩
    exact ⟨i, r, p, hr, hp, rfl⟩
  · rintro ⟨i, r, p, hr, hp, rfl⟩
    exact ⟨r, i, hr, p, hp, rfl⟩

theorem pairwise_rowReports (rows : List Row) : (rowReports rows).Pairwise Blocking.Before := by
  rw [rowReports, List.pairwise_flatMap]
  constructor
  · rintro ⟨r, i⟩ -
    rw [List.pairwise_map]
    exact (pairwise_problems r).imp fun hlt => Or.inr ⟨rfl, hlt⟩
  · refine (pairwise_zipIdx rows).imp fun hlt b hb b' hb' => ?_
    obtain ⟨p, -, rfl⟩ := List.mem_map.mp hb
    obtain ⟨p', -, rfl⟩ := List.mem_map.mp hb'
    exact Or.inl (Nat.succ_lt_succ hlt)

theorem blocking_eq (m : Metadata) (rows : List Row) : blocking (some m) rows =
    (if Text.isBlankText m.recordName.words then [.noRecordName] else []) ++
      (if rows.isEmpty then [.noRows] else []) ++ rowReports rows := rfl

theorem isReport_blocking (m : Metadata) (rows : List Row) :
    IsReport m rows (blocking (some m) rows) where
  mem_iff := by
    intro b
    rw [blocking_eq]
    cases b with
    | noRecordName => simp [Blocking.Holds, mem_rowReports, Text.isBlankText]
    | noRows => simp [Blocking.Holds, mem_rowReports]
    | row number name p =>
      have hrecord : Blocking.row number name p ∉
          if Text.isBlankText m.recordName.words then [.noRecordName] else [] := by
        split <;> simp
      have hrows : Blocking.row number name p ∉ if rows.isEmpty then [.noRows] else [] := by
        split <;> simp
      simp only [List.mem_append, hrecord, hrows, false_or, mem_rowReports, mem_problems,
        Blocking.Holds]
      constructor
      · rintro ⟨i, r, p, hr, hp, heq⟩
        cases heq
        exact ⟨i, r, hr, rfl, rfl, hp⟩
      · rintro ⟨i, r, hr, rfl, rfl, hp⟩
        exact ⟨i, r, p, hr, hp, rfl⟩
  ordered := by
    have hfirst : ∀ b : Blocking, b = .noRecordName ∨ b = .noRows →
        ∀ b' ∈ rowReports rows, b.Before b' := by
      intro b hb b' hb'
      obtain ⟨i, r, p, -, -, rfl⟩ := mem_rowReports.mp hb'
      rcases hb with rfl | rfl <;> exact Or.inl (Nat.succ_pos i)
    rw [blocking_eq, List.pairwise_append]
    refine ⟨?_, pairwise_rowReports rows, fun b hb => hfirst b ?_⟩
    · split <;> split <;> simp [Blocking.Before, Blocking.place]
    · rw [List.mem_append] at hb
      refine hb.imp (fun hb => ?_) fun hb => ?_
      · split at hb
        · exact List.mem_singleton.mp hb
        · cases hb
      · split at hb
        · exact List.mem_singleton.mp hb
        · cases hb

theorem requireSound_eq_error (h : blocking (some m) rows ≠ []) :
    requireSound (some m) rows = .error (.blocked (blocking (some m) rows)) := by
  rw [requireSound, if_neg (by simpa using h)]

/-- Rows that keep nothing from being generated do so with derived names, too. -/
theorem requireSound_resolveAll {s : Settings} (h : requireSound (some m) rows = .ok ()) :
    requireSound (some m) (resolveAll s (some m) rows) = .ok () := by
  have hblocking := requireSound_eq_ok_iff.mp h
  rw [requireSound_eq_ok_iff, blocking_eq]
  rw [blocking_eq, List.append_eq_nil_iff, List.append_eq_nil_iff] at hblocking
  obtain ⟨⟨hrecord, hrows⟩, -⟩ := hblocking
  have hempty : (resolveAll s (some m) rows).isEmpty = rows.isEmpty := List.isEmpty_map
  have hreports : rowReports (resolveAll s (some m) rows) = [] := by
    rw [List.eq_nil_iff_forall_not_mem]
    intro b hb
    obtain ⟨i, r, p, hr, hp, -⟩ := mem_rowReports.mp hb
    obtain ⟨q, hq, rfl⟩ := List.mem_map.mp (List.mem_of_getElem? hr)
    rw [problems_resolve _ (problems_of_requireSound h hq)] at hp
    cases hp
  rw [hrecord, hempty, hrows, hreports]
  rfl

end Row

end Formwork
