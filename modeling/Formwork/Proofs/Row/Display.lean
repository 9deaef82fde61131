import Mathlib.Data.List.Perm.Basic
import Formwork.Proofs.Row.Move

/-!
# Sorting all groups

Sorting puts the groups one after the other by first occurrence, each in its display sequence.
Sorting a list again sorts the same groups, but a row without an order now stands by the place that
the first sorting gave it. What is sorted stays as it is exactly where such rows agree, at their new
places, with the orders that other rows of their groups have.
-/
namespace Formwork.Row

variable {s : Settings} {key : String} {rows : List Row}

/-- The number by which a row at a place is shown: its order, or the place if it has none. -/
def rank (x : Row × Nat) : Int :=
  x.1.order.getD x.2

/-- Rows of one group stand in the order of their ranks. -/
def InOrder (s : Settings) (rows : List Row) : Prop :=
  rows.zipIdx.Pairwise (fun a b => a.1.groupKey s = b.1.groupKey s → rank a ≤ rank b)

/-- Every row without an order stands before the rows of its group whose order is above its place,
and behind those whose order is below it. -/
def PlacesAgree (s : Settings) (rows : List Row) : Prop :=
  ∀ (i j : Nat) (r r' : Row) (order : Int), rows[i]? = some r → rows[j]? = some r' →
    r.groupKey s = r'.groupKey s → r.order = none → r'.order = some order →
    (i < j → (i : Int) ≤ order) ∧ (j < i → order ≤ i)

/-- The groups of a list stand one after the other, by first occurrence, and make up the list. -/
structure Grouped (s : Settings) (rows shown : List Row) : Prop where
  perm : shown.Perm rows
  keys : shown.map (groupKey s) = (groupKeys s rows).flatMap
    (fun key => List.replicate (rows.countP (fun r => r.groupKey s == key)) key)

/-! ## One group -/

section Stable

variable {α β : Type} [DecidableEq β]

/-- Lists with the same values under a function are the same if they have the same entries, in the
same order, for every value. -/
theorem eq_of_map_eq_of_filter_eq {f : α → β} {l l' : List α} (hmap : l.map f = l'.map f)
    (h : ∀ b, l.filter (fun a => f a = b) = l'.filter (fun a => f a = b)) : l = l' := by
  induction l generalizing l' with
  | nil => exact (List.map_eq_nil_iff.mp hmap.symm).symm
  | cons a l ih =>
    obtain ⟨a', l', rfl, hvalue, htail⟩ := List.map_eq_cons_iff.mp hmap.symm
    have hfirst := h (f a)
    rw [List.filter_cons_of_pos (by simp), List.filter_cons_of_pos (by simp [hvalue])] at hfirst
    obtain ⟨rfl, -⟩ := List.cons.inj hfirst
    refine congrArg (a :: ·) (ih htail.symm fun b => ?_)
    have hb := h b
    rw [List.filter_cons, List.filter_cons] at hb
    split at hb
    · exact (List.cons.inj hb).2
    · exact hb

/-- A list that shows the same values after stable sorting was sorted, if entries of one value were
sorted. -/
theorem pairwise_of_map_mergeSort {f : α → β} {le : α → α → Bool} {l : List α}
    (htrans : ∀ a b c, le a b = true → le b c = true → le a c = true)
    (htotal : ∀ a b, (le a b || le b a) = true)
    (hvalue : ∀ b, (l.filter (fun a => f a = b)).Pairwise (fun a a' => le a a' = true))
    (h : (l.mergeSort le).map f = l.map f) : l.Pairwise (fun a b => le a b = true) := by
  have hsorted : l.mergeSort le = l :=
    eq_of_map_eq_of_filter_eq h fun b => filter_mergeSort htrans htotal (hvalue b)
  rw [← hsorted]
  exact List.pairwise_mergeSort htrans htotal l

end Stable

/-- The rows of a group with their places, in the order of the list. -/
def members (s : Settings) (key : String) (rows : List Row) : List (Row × Nat) :=
  rows.zipIdx.filter (fun x => x.1.groupKey s == key)

theorem displayed_eq (s : Settings) (key : String) (rows : List Row) :
    displayed s key rows =
      (members s key rows).mergeSort (fun a b => decide (rank a ≤ rank b)) := rfl

theorem map_fst_members (s : Settings) (key : String) (rows : List Row) :
    (members s key rows).map (·.1) = rows.filter (fun r => r.groupKey s == key) := by
  calc (members s key rows).map (·.1)
      = (rows.zipIdx.map (·.1)).filter (fun r => r.groupKey s == key) := by
        rw [List.filter_map]
        rfl
    _ = rows.filter (fun r => r.groupKey s == key) := by rw [List.zipIdx_map_fst]

/-- A group is shown with all its rows. -/
theorem sortGroup_perm (s : Settings) (key : String) (rows : List Row) :
    (sortGroup s key rows).Perm (rows.filter (fun r => r.groupKey s == key)) := by
  rw [sortGroup, displayed_eq, ← map_fst_members]
  exact (List.mergeSort_perm _ _).map _

/-- Rows that are equal have their ranks in the order of the list. -/
theorem pairwise_rank_of_eq (s : Settings) (key : String) (rows : List Row) (r : Row)
    [DecidableEq Row] :
    ((members s key rows).filter (fun x => x.1 = r)).Pairwise (fun a b => rank a ≤ rank b) := by
  refine List.Pairwise.imp_of_mem (R := fun a b => a.2 < b.2) (fun {a b} ha hb hlt => ?_) ?_
  · obtain rfl : a.1 = r := by simpa using (List.mem_filter.mp ha).2
    have heq : b.1 = a.1 := by simpa using (List.mem_filter.mp hb).2
    unfold rank
    rw [heq]
    cases a.1.order with
    | none => exact Int.ofNat_le.mpr (Nat.le_of_lt hlt)
    | some order => exact Int.le_refl order
  · exact (pairwise_zipIdx rows).sublist (List.filter_sublist.trans List.filter_sublist)

/-- A group is shown as it stands in the list exactly where it stands by rank. -/
theorem sortGroup_eq_filter_iff (s : Settings) (key : String) (rows : List Row) :
    sortGroup s key rows = rows.filter (fun r => r.groupKey s == key) ↔
      (members s key rows).Pairwise (fun a b => rank a ≤ rank b) := by
  classical
  rw [sortGroup, displayed_eq, ← map_fst_members]
  constructor
  · intro h
    refine (pairwise_of_map_mergeSort (fun a b c hab hbc => ?_) (fun a b => ?_) (fun r => ?_)
      h).imp of_decide_eq_true
    · rw [decide_eq_true_eq] at hab hbc ⊢
      exact Int.le_trans hab hbc
    · rw [Bool.or_eq_true, decide_eq_true_eq, decide_eq_true_eq]
      exact Int.le_total _ _
    · exact (pairwise_rank_of_eq s key rows r).imp decide_eq_true
  · intro h
    rw [List.mergeSort_of_pairwise (h.imp decide_eq_true)]

/-! ## All groups -/

theorem groupKey_of_mem_sortGroup {r : Row} (h : r ∈ sortGroup s key rows) :
    r.groupKey s = key := by
  simpa using (List.mem_filter.mp ((sortGroup_perm s key rows).mem_iff.mp h)).2

theorem blocks_sortGroup (s : Settings) (rows : List Row) :
    Blocks (groupKey s) (groupKeys s rows) (fun key => sortGroup s key rows) where
  nodup := nodup_distinct _
  ne_nil := by
    intro key hkey hnil
    obtain ⟨r, hr, rfl⟩ := List.mem_map.mp (mem_distinct.mp hkey)
    have hmem : r ∈ sortGroup s (r.groupKey s) rows :=
      (sortGroup_perm s _ rows).mem_iff.mpr (List.mem_filter.mpr ⟨hr, by simp⟩)
    rw [hnil] at hmem
    cases hmem
  key_eq := fun key _ r hr => groupKey_of_mem_sortGroup hr

theorem sortByOrder_perm (s : Settings) (rows : List Row) : (sortByOrder s rows).Perm rows := by
  have hblocks : (sortByOrder s rows).Perm
      ((groupKeys s rows).flatMap (fun key => rows.filter (fun r => r.groupKey s == key))) :=
    List.Perm.flatMap_left _ fun key _ => sortGroup_perm s key rows
  exact hblocks.trans (flatMap_filter_perm (groupKey s) (nodup_distinct _) fun r hr =>
    mem_distinct.mpr (List.mem_map_of_mem hr))

theorem grouped_sortByOrder (s : Settings) (rows : List Row) :
    Grouped s rows (sortByOrder s rows) where
  perm := sortByOrder_perm s rows
  keys := by
    rw [sortByOrder, List.map_flatMap]
    refine List.flatMap_congr fun key _ => ?_
    rw [List.countP_eq_length_filter, ← (sortGroup_perm s key rows).length_eq,
      List.map_eq_replicate_iff]
    exact fun r hr => groupKey_of_mem_sortGroup hr

/-- Sorting keeps the sequence of the groups. -/
theorem groupKeys_sortByOrder (s : Settings) (rows : List Row) :
    groupKeys s (sortByOrder s rows) = groupKeys s rows :=
  (blocks_sortGroup s rows).distinct_keys

/-- The rows of a group stand in a sorted list in their display sequence. -/
theorem filter_sortByOrder {key : String} (hkey : key ∈ groupKeys s rows) :
    (sortByOrder s rows).filter (fun r => r.groupKey s == key) = sortGroup s key rows :=
  (blocks_sortGroup s rows).filter_key hkey

/-! ## Sorting again -/

theorem inOrder_iff_getElem? (s : Settings) (rows : List Row) :
    InOrder s rows ↔ ∀ (i j : Nat) (r r' : Row), rows[i]? = some r → rows[j]? = some r' → i < j →
      r.groupKey s = r'.groupKey s → rank (r, i) ≤ rank (r', j) := by
  rw [InOrder, List.pairwise_iff_getElem]
  constructor
  · intro h i j r r' hi hj hlt
    obtain ⟨hi', rfl⟩ := List.getElem?_eq_some_iff.mp hi
    obtain ⟨hj', rfl⟩ := List.getElem?_eq_some_iff.mp hj
    have hle := h i j (by rwa [List.length_zipIdx]) (by rwa [List.length_zipIdx]) hlt
    simpa only [List.getElem_zipIdx, Nat.zero_add] using hle
  · intro h i j hi hj hlt
    rw [List.length_zipIdx] at hi hj
    simpa using h i j rows[i] rows[j] (List.getElem?_eq_getElem hi) (List.getElem?_eq_getElem hj)
      hlt

theorem inOrder_iff_members (s : Settings) (rows : List Row) :
    InOrder s rows ↔
      ∀ key ∈ groupKeys s rows, (members s key rows).Pairwise (fun a b => rank a ≤ rank b) := by
  have hkeys : rows.zipIdx.map (fun x => x.1.groupKey s) = rows.map (groupKey s) := by
    calc rows.zipIdx.map (fun x => x.1.groupKey s)
        = (rows.zipIdx.map (·.1)).map (groupKey s) := by
          rw [List.map_map]
          rfl
      _ = rows.map (groupKey s) := by rw [List.zipIdx_map_fst]
  rw [InOrder, pairwise_key_iff (fun x : Row × Nat => x.1.groupKey s), hkeys]
  simp only [groupKeys, mem_distinct, members]

/-- Rows that stand by rank in their groups are sorted by gathering the groups. -/
theorem sortByOrder_of_inOrder (h : InOrder s rows) :
    sortByOrder s rows =
      (groupKeys s rows).flatMap (fun key => rows.filter (fun r => r.groupKey s == key)) :=
  List.flatMap_congr fun key hkey =>
    (sortGroup_eq_filter_iff s key rows).mpr ((inOrder_iff_members s rows).mp h key hkey)

/-- A sorted list is sorted to itself exactly where its groups stand by rank at their new places. -/
theorem sortByOrder_sortByOrder_eq_iff (s : Settings) (rows : List Row) :
    sortByOrder s (sortByOrder s rows) = sortByOrder s rows ↔ InOrder s (sortByOrder s rows) := by
  constructor
  · intro h
    rw [inOrder_iff_members]
    intro key hkey
    rw [← sortGroup_eq_filter_iff, ← filter_sortByOrder hkey, h]
  · intro h
    rw [sortByOrder_of_inOrder h, groupKeys_sortByOrder]
    exact List.flatMap_congr fun key hkey => filter_sortByOrder hkey

/-- Rows of one group that have orders stand in a sorted list by their orders. -/
theorem pairwise_order_sortByOrder (s : Settings) (rows : List Row) :
    (sortByOrder s rows).Pairwise (fun r r' => r.groupKey s = r'.groupKey s →
      ∀ order order', r.order = some order → r'.order = some order' → order ≤ order') := by
  refine (pairwise_key_iff _).mpr fun key hkey => ?_
  have hkey : key ∈ groupKeys s rows := by
    rw [← groupKeys_sortByOrder]
    exact mem_distinct.mpr hkey
  rw [filter_sortByOrder hkey, sortGroup, List.pairwise_map]
  refine (pairwise_displayed s key rows).imp fun hle order order' ha hb => ?_
  rwa [ha, hb] at hle

theorem inOrder_sortByOrder_iff (s : Settings) (rows : List Row) :
    InOrder s (sortByOrder s rows) ↔ PlacesAgree s (sortByOrder s rows) := by
  rw [inOrder_iff_getElem?]
  constructor
  · intro h i j r r' order hi hj hkey hnone hsome
    constructor
    · intro hlt
      have hle := h i j r r' hi hj hlt hkey
      rwa [rank, rank, hnone, hsome] at hle
    · intro hlt
      have hle := h j i r' r hj hi hlt hkey.symm
      rwa [rank, rank, hnone, hsome] at hle
  · intro h i j r r' hi hj hlt hkey
    show r.order.getD i ≤ r'.order.getD j
    cases hr : r.order with
    | none =>
      cases hr' : r'.order with
      | none => exact Int.ofNat_le.mpr (Nat.le_of_lt hlt)
      | some order => exact (h i j r r' order hi hj hkey hr hr').1 hlt
    | some order =>
      cases hr' : r'.order with
      | none => exact (h j i r' r order hj hi hkey.symm hr' hr).2 hlt
      | some order' =>
        obtain ⟨hi', rfl⟩ := List.getElem?_eq_some_iff.mp hi
        obtain ⟨hj', rfl⟩ := List.getElem?_eq_some_iff.mp hj
        exact List.pairwise_iff_getElem.mp (pairwise_order_sortByOrder s rows) i j hi' hj' hlt hkey
          order order' hr hr'

/-- Where no group mixes rows with orders and rows without, a second sorting changes nothing. -/
theorem sortByOrder_sortByOrder_of_unmixed
    (h : ∀ r ∈ rows, ∀ r' ∈ rows, r.groupKey s = r'.groupKey s → r.order = none →
      r'.order = none) : sortByOrder s (sortByOrder s rows) = sortByOrder s rows := by
  rw [sortByOrder_sortByOrder_eq_iff, inOrder_sortByOrder_iff]
  intro i j r r' order hi hj hkey hnone hsome
  have hr := (sortByOrder_perm s rows).mem_iff.mp (List.mem_of_getElem? hi)
  have hr' := (sortByOrder_perm s rows).mem_iff.mp (List.mem_of_getElem? hj)
  rw [h r hr r' hr' hkey hnone] at hsome
  cases hsome

/-- **Sorting again.** A sorted list is sorted to itself exactly where its rows without orders agree
by their new places with the orders in their groups, which they do if no group has both. -/
theorem sortByOrder_settles (s : Settings) (rows : List Row) :
    (sortByOrder s (sortByOrder s rows) = sortByOrder s rows ↔
      PlacesAgree s (sortByOrder s rows)) ∧
    ((∀ r ∈ rows, ∀ r' ∈ rows, r.groupKey s = r'.groupKey s → r.order = none → r'.order = none) →
      sortByOrder s (sortByOrder s rows) = sortByOrder s rows) :=
  ⟨(sortByOrder_sortByOrder_eq_iff s rows).trans (inOrder_sortByOrder_iff s rows),
    sortByOrder_sortByOrder_of_unmixed⟩

/-- Two groups that alternate, one with orders and one without. -/
theorem sortByOrder_settles_alternating :
    let rows : List Row :=
      [{ label := .text "A", order := some 7 }, { label := .text "L", area := .list },
       { label := .text "B", order := some (-1) }, { label := .text "M", area := .list }]
    (∀ r ∈ rows, ∀ r' ∈ rows, r.groupKey .builtin = r'.groupKey .builtin → r.order = none →
      r'.order = none) ∧
    sortByOrder .builtin (sortByOrder .builtin rows) = sortByOrder .builtin rows ∧
    PlacesAgree .builtin (sortByOrder .builtin rows) := by
  intro rows
  have hunmixed : ∀ r ∈ rows, ∀ r' ∈ rows, r.groupKey .builtin = r'.groupKey .builtin →
      r.order = none → r'.order = none := by
    decide +kernel
  have hsame := (sortByOrder_settles .builtin rows).2 hunmixed
  exact ⟨hunmixed, hsame, (sortByOrder_settles .builtin rows).1.mp hsame⟩

/-- A row without an order stood before one with an order, and comes behind it when another group is
put before both. -/
theorem sortByOrder_twice_moves :
    let rows : List Row :=
      [{ label := .text "L", area := .list }, { label := .text "A" },
       { label := .text "B", order := some 1 }, { label := .text "M", area := .list }]
    sortByOrder .builtin rows = [rows[0], rows[3], rows[1], rows[2]] ∧
      sortByOrder .builtin (sortByOrder .builtin rows) ≠ sortByOrder .builtin rows := by
  intro rows
  have hinOrder : InOrder .builtin rows := by
    unfold InOrder
    decide +kernel
  have hsorted : sortByOrder .builtin rows = [rows[0], rows[3], rows[1], rows[2]] :=
    sortByOrder_of_inOrder hinOrder
  refine ⟨hsorted, fun hsame => ?_⟩
  have hagree := (inOrder_sortByOrder_iff _ _).mp ((sortByOrder_sortByOrder_eq_iff _ _).mp hsame)
  rw [hsorted] at hagree
  have hle : (2 : Int) ≤ 1 := (hagree 2 3 rows[1] rows[2] 1 rfl rfl rfl rfl rfl).1 (by decide)
  omega

end Formwork.Row
