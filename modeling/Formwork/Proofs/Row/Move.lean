import Mathlib.Data.List.Nodup
import Formwork.Proofs.Classes
import Formwork.Row.Order

/-!
# Moving a row within its group

The display sequence of a group lists the places of its rows. A move exchanges the row with its
neighbour in the sequence and gives every row of the group its rank as order. Ranks do not collide,
whatever the orders were before, so that the new sequence is the exchanged one and nothing else
moves.
-/
namespace Formwork.Row

variable {s : Settings} {key : String} {rows : List Row}

/-- The places in the list of the rows of a group, in display order. -/
def sequence (s : Settings) (key : String) (rows : List Row) : List Nat :=
  (displayed s key rows).map (·.2)

/-- A row without its order. -/
def unordered (r : Row) : Row :=
  { r with order := none }

/-- Two neighbours in the display sequence of a group change places. -/
structure Swaps (s : Settings) (key : String) (before : List Nat) (a b : Nat) (after : List Nat)
    (rows moved : List Row) : Prop where
  neighbours : sequence s key rows = before ++ a :: b :: after
  swapped : sequence s key moved = before ++ b :: a :: after
  /-- The rows of the group are shown in the new sequence. -/
  shown : (sortGroup s key moved).map unordered =
    (before ++ b :: a :: after).filterMap (fun i => rows[i]?.map unordered)
  orders : (sortGroup s key moved).map (·.order) =
    (List.range (sequence s key rows).length).map (fun n : Nat => some (n : Int))
  /-- Rows keep their places in the list and everything but their orders. -/
  kept : moved.map unordered = rows.map unordered
  others : ∀ (i : Nat) (r : Row), rows[i]? = some r → r.groupKey s ≠ key → moved[i]? = some r

/-- Rows are shown in the same sequence as before. -/
structure Restores (s : Settings) (key : String) (rows moved : List Row) : Prop where
  sequence : sequence s key moved = sequence s key rows
  shown : (sortGroup s key moved).map unordered = (sortGroup s key rows).map unordered

/-! ## The display sequence -/

theorem mem_displayed {x : Row × Nat} :
    x ∈ displayed s key rows ↔ rows[x.2]? = some x.1 ∧ x.1.groupKey s = key := by
  rw [displayed, (List.mergeSort_perm _ _).mem_iff, List.mem_filter, List.mem_zipIdx_iff_getElem?,
    beq_iff_eq]

theorem mem_sequence {i : Nat} :
    i ∈ sequence s key rows ↔ ∃ r, rows[i]? = some r ∧ r.groupKey s = key := by
  simp [sequence, mem_displayed]

theorem nodup_sequence (s : Settings) (key : String) (rows : List Row) :
    (sequence s key rows).Nodup := by
  rw [sequence, displayed]
  refine ((List.mergeSort_perm _ _).map _).nodup_iff.mpr ?_
  rw [List.nodup_iff_pairwise_ne, List.pairwise_map]
  exact ((pairwise_zipIdx rows).sublist List.filter_sublist).imp Nat.ne_of_lt

theorem pairwise_displayed (s : Settings) (key : String) (rows : List Row) :
    (displayed s key rows).Pairwise (fun a b => a.1.order.getD a.2 ≤ b.1.order.getD b.2) := by
  rw [displayed]
  refine (List.pairwise_mergeSort (fun a b c hab hbc => ?_) (fun a b => ?_) _).imp fun hle =>
    of_decide_eq_true hle
  · rw [decide_eq_true_eq] at hab hbc ⊢
    exact Int.le_trans hab hbc
  · rw [Bool.or_eq_true, decide_eq_true_eq, decide_eq_true_eq]
    exact Int.le_total _ _

/-- The rows of a group are shown in its display sequence. -/
theorem sortGroup_eq (s : Settings) (key : String) (rows : List Row) :
    sortGroup s key rows = (sequence s key rows).filterMap (rows[·]?) := by
  rw [sequence, List.filterMap_map, sortGroup, eq_comm, List.filterMap_eq_map_iff_forall_eq_some]
  exact fun x hx => (mem_displayed.mp hx).1

theorem map_unordered_sortGroup (s : Settings) (key : String) (rows : List Row) :
    (sortGroup s key rows).map unordered =
      (sequence s key rows).filterMap (fun i => (rows.map unordered)[i]?) := by
  rw [sortGroup_eq, List.map_filterMap]
  simp only [List.getElem?_map]

/-! ## Ranks as orders -/

/-- The rows of a group have as orders their ranks in a list of its places. -/
structure Ranked (s : Settings) (key : String) (places : List Nat) (rows : List Row) : Prop where
  nodup : places.Nodup
  mem : ∀ i, i ∈ sequence s key rows ↔ i ∈ places
  order : ∀ x ∈ displayed s key rows, x.1.order = some (places.idxOf x.2 : Int)

/-- A group whose orders are ranks is displayed by them. -/
theorem Ranked.sequence_eq {places : List Nat} (h : Ranked s key places rows) :
    sequence s key rows = places := by
  -- Both lists are sorted by rank, and no two places share one.
  have hunique : ∀ i j, i ∈ sequence s key rows → j ∈ places →
      places.idxOf i ≤ places.idxOf j → places.idxOf j ≤ places.idxOf i → i = j :=
    fun i j hi _ hij hji => (List.idxOf_inj ((h.mem i).mp hi)).mp (Nat.le_antisymm hij hji)
  refine List.Perm.eq_of_pairwise hunique ?_ ?_
    ((List.perm_ext_iff_of_nodup (nodup_sequence s key rows) h.nodup).mpr h.mem)
  · rw [sequence, List.pairwise_map]
    refine (pairwise_displayed s key rows).imp_of_mem fun ha hb hle => ?_
    rw [h.order _ ha, h.order _ hb] at hle
    exact Int.ofNat_le.mp hle
  · refine List.pairwise_iff_getElem.mpr fun i j hi hj hlt => ?_
    rw [h.nodup.idxOf_getElem, h.nodup.idxOf_getElem]
    exact Nat.le_of_lt hlt

theorem Ranked.map_order {places : List Nat} (h : Ranked s key places rows) :
    (sortGroup s key rows).map (·.order) =
      (List.range places.length).map (fun n : Nat => some (n : Int)) := by
  have hranks : places.map places.idxOf = List.range places.length := by
    refine List.ext_getElem (by simp) fun n hn _ => ?_
    rw [List.getElem_map, List.getElem_range, h.nodup.idxOf_getElem]
  have horders : (sortGroup s key rows).map (·.order) =
      (sequence s key rows).map (fun i => some (places.idxOf i : Int)) := by
    rw [sortGroup, sequence, List.map_map, List.map_map]
    exact List.map_congr_left h.order
  rw [horders, h.sequence_eq, ← hranks, List.map_map]
  rfl

/-- The row at a place with its rank among listed places as order, if the place is listed. -/
def ranked (places : List Nat) (i : Nat) (r : Row) : Row :=
  match places.idxOf? i with
  | some n => { r with order := some (n : Int) }
  | none => r

theorem ranked_of_mem {places : List Nat} {i : Nat} (h : i ∈ places) (r : Row) :
    ranked places i r = { r with order := some (places.idxOf i : Int) } := by
  obtain ⟨n, hn⟩ := Option.isSome_iff_exists.mp (List.isSome_idxOf?.mpr h)
  rw [List.idxOf_eq_getD_idxOf?, ranked, hn, Option.getD_some]

theorem ranked_of_notMem {places : List Nat} {i : Nat} (h : i ∉ places) (r : Row) :
    ranked places i r = r := by
  rw [ranked, List.idxOf?_eq_none_iff.mpr h]

@[simp] theorem groupKey_ranked (places : List Nat) (i : Nat) (r : Row) :
    (ranked places i r).groupKey s = r.groupKey s := by
  unfold ranked
  split <;> rfl

@[simp] theorem unordered_ranked (places : List Nat) (i : Nat) (r : Row) :
    (ranked places i r).unordered = r.unordered := by
  unfold ranked
  split <;> rfl

theorem getElem?_renumber (places : List Nat) (rows : List Row) (i : Nat) :
    (renumber places rows)[i]? = rows[i]?.map (ranked places i) := by
  rw [renumber, List.getElem?_map, List.getElem?_zipIdx, Option.map_map, Nat.zero_add]
  rfl

theorem map_unordered_renumber (places : List Nat) (rows : List Row) :
    (renumber places rows).map unordered = rows.map unordered := by
  refine List.ext_getElem? fun i => ?_
  rw [List.getElem?_map, getElem?_renumber, Option.map_map, List.getElem?_map]
  exact congrArg (Option.map · rows[i]?) (funext (unordered_ranked places i))

section Renumber

variable {places : List Nat}

theorem mem_sequence_renumber {i : Nat} :
    i ∈ sequence s key (renumber places rows) ↔ i ∈ sequence s key rows := by
  rw [mem_sequence, mem_sequence, getElem?_renumber]
  simp

/-- Every row of a group stands at its rank. -/
theorem ranked_renumber (hperm : places.Perm (sequence s key rows)) :
    Ranked s key places (renumber places rows) where
  nodup := hperm.nodup_iff.mpr (nodup_sequence s key rows)
  mem := fun i => by rw [mem_sequence_renumber, hperm.mem_iff]
  order := by
    intro x hx
    have hplace : x.2 ∈ sequence s key (renumber places rows) :=
      List.mem_map_of_mem (f := (·.2)) hx
    rw [mem_sequence_renumber, ← hperm.mem_iff] at hplace
    have hrow := (mem_displayed.mp hx).1
    rw [getElem?_renumber] at hrow
    obtain ⟨r, -, hr⟩ := Option.map_eq_some_iff.mp hrow
    rw [← hr, ranked_of_mem hplace]

/-- Ranks in a permutation of the display sequence make it the display sequence. -/
theorem sequence_renumber (hperm : places.Perm (sequence s key rows)) :
    sequence s key (renumber places rows) = places :=
  (ranked_renumber hperm).sequence_eq

/-- Ranks in the sequence with two neighbours exchanged swap them. -/
theorem swaps_renumber {before after : List Nat} {a b : Nat}
    (h : sequence s key rows = before ++ a :: b :: after) :
    Swaps s key before a b after rows (renumber (before ++ b :: a :: after) rows) := by
  have hperm : (before ++ b :: a :: after).Perm (sequence s key rows) := by
    rw [h]
    exact (List.Perm.swap a b after).append_left before
  refine ⟨h, sequence_renumber hperm, ?_, ?_, map_unordered_renumber _ rows, ?_⟩
  · rw [map_unordered_sortGroup, sequence_renumber hperm, map_unordered_renumber]
    simp only [List.getElem?_map]
  · rw [(ranked_renumber hperm).map_order, hperm.length_eq]
  · intro i r hr hkey
    have hplace : i ∉ before ++ b :: a :: after := by
      rw [hperm.mem_iff, mem_sequence, hr]
      simpa using hkey
    rw [getElem?_renumber, hr, Option.map_some, ranked_of_notMem hplace]

end Renumber

/-! ## Moves -/

theorem exchange_next (before after : List Nat) (a b : Nat) :
    exchange (before ++ a :: b :: after) before.length (before.length + 1) =
      before ++ b :: a :: after := by
  simp [exchange, List.set_append_right]

theorem exchange_previous (before after : List Nat) (a b : Nat) :
    exchange (before ++ a :: b :: after) (before.length + 1) before.length =
      before ++ b :: a :: after := by
  simp [exchange, List.set_append_right]

theorem exchangeWith_of_out {target : Nat → Option Nat} {index : Int}
    (h : index < 0 ∨ (rows.length : Int) ≤ index) : exchangeWith s target index rows = rows := by
  have hnone : (if index < 0 then none else rows[index.toNat]?) = none := by
    split
    · rfl
    · exact List.getElem?_eq_none (by omega)
  rw [exchangeWith, hnone]

section Move

variable {i : Nat} {r : Row} {before after : List Nat} {a b : Nat}

theorem exchangeWith_of_getElem? (target : Nat → Option Nat) (hr : rows[i]? = some r) :
    exchangeWith s target i rows =
      match target ((sequence s (r.groupKey s) rows).idxOf i) with
      | some other =>
        if other < (sequence s (r.groupKey s) rows).length then
          renumber (exchange (sequence s (r.groupKey s) rows)
            ((sequence s (r.groupKey s) rows).idxOf i) other) rows
        else rows
      | none => rows := by
  have hrow : (if (i : Int) < 0 then none else rows[(i : Int).toNat]?) = some r := by
    rw [if_neg (by omega), Int.toNat_natCast, hr]
  rw [exchangeWith, hrow]
  rfl

/-- A place stands in the sequence behind those before it. -/
theorem idxOf_of_split (h : sequence s key rows = before ++ i :: after) :
    (sequence s key rows).idxOf i = before.length := by
  have hnd := nodup_sequence s key rows
  rw [h] at hnd
  have hnot : i ∉ before := fun hmem => (List.nodup_append.mp hnd).2.2 i hmem i (by simp) rfl
  rw [h, List.idxOf_append_of_notMem hnot, List.idxOf_cons_self, Nat.add_zero]

theorem moveUp_of_first (hr : rows[i]? = some r)
    (h : (sequence s (r.groupKey s) rows).head? = some i) : moveUp s i rows = rows := by
  obtain ⟨rest, hrest⟩ := List.head?_eq_some_iff.mp h
  have hplace := idxOf_of_split (hrest.trans (List.nil_append _).symm)
  rw [moveUp, exchangeWith_of_getElem? _ hr, hplace]
  rfl

theorem moveDown_of_last (hr : rows[i]? = some r)
    (h : (sequence s (r.groupKey s) rows).getLast? = some i) : moveDown s i rows = rows := by
  obtain ⟨before, hbefore⟩ := List.getLast?_eq_some_iff.mp h
  rw [moveDown, exchangeWith_of_getElem? _ hr, idxOf_of_split hbefore, hbefore]
  simp

theorem moveUp_of_split (hr : rows[i]? = some r)
    (h : sequence s (r.groupKey s) rows = before ++ a :: i :: after) :
    moveUp s i rows = renumber (before ++ i :: a :: after) rows := by
  have hsplit : sequence s (r.groupKey s) rows = (before ++ [a]) ++ i :: after := by simpa using h
  have hplace := idxOf_of_split hsplit
  rw [List.length_append, List.length_singleton] at hplace
  rw [moveUp, exchangeWith_of_getElem? _ hr, hplace, h]
  simp [exchange_previous]

theorem moveDown_of_split (hr : rows[i]? = some r)
    (h : sequence s (r.groupKey s) rows = before ++ i :: b :: after) :
    moveDown s i rows = renumber (before ++ b :: i :: after) rows := by
  rw [moveDown, exchangeWith_of_getElem? _ hr, idxOf_of_split h, h]
  simp [exchange_next]

/-- A row that is not the first of its group has a neighbour before it. -/
theorem exists_before (hr : rows[i]? = some r)
    (h : (sequence s (r.groupKey s) rows).head? ≠ some i) :
    ∃ before a after, sequence s (r.groupKey s) rows = before ++ a :: i :: after := by
  obtain ⟨front, after, hsplit⟩ := List.append_of_mem (mem_sequence.mpr ⟨r, hr, rfl⟩)
  rcases List.eq_nil_or_concat front with rfl | ⟨before, a, rfl⟩
  · rw [hsplit] at h
    exact absurd rfl h
  · exact ⟨before, a, after, by simpa using hsplit⟩

/-- A row that is not the last of its group has a neighbour behind it. -/
theorem exists_after (hr : rows[i]? = some r)
    (h : (sequence s (r.groupKey s) rows).getLast? ≠ some i) :
    ∃ before b after, sequence s (r.groupKey s) rows = before ++ i :: b :: after := by
  obtain ⟨before, back, hsplit⟩ := List.append_of_mem (mem_sequence.mpr ⟨r, hr, rfl⟩)
  cases back with
  | nil =>
    rw [hsplit] at h
    simp at h
  | cons b after => exact ⟨before, b, after, hsplit⟩

/-- Neighbours that are swapped again are shown as before. -/
theorem Swaps.restores {moved again : List Row} (h : Swaps s key before a b after rows moved)
    (h' : Swaps s key before b a after moved again) : Restores s key rows again := by
  have hsequence : sequence s key again = sequence s key rows := by
    rw [h'.swapped, h.neighbours]
  refine ⟨hsequence, ?_⟩
  rw [map_unordered_sortGroup, map_unordered_sortGroup, hsequence, h'.kept, h.kept]

/-- The row keeps its place in the list and its group. -/
theorem exists_getElem?_renumber (places : List Nat) (hr : rows[i]? = some r) :
    ∃ r', (renumber places rows)[i]? = some r' ∧ r'.groupKey s = r.groupKey s := by
  refine ⟨ranked places i r, ?_, groupKey_ranked places i r⟩
  rw [getElem?_renumber, hr, Option.map_some]

theorem swaps_moveUp (hr : rows[i]? = some r)
    (h : sequence s (r.groupKey s) rows = before ++ a :: i :: after) :
    Swaps s (r.groupKey s) before a i after rows (moveUp s i rows) := by
  rw [moveUp_of_split hr h]
  exact swaps_renumber h

theorem swaps_moveDown (hr : rows[i]? = some r)
    (h : sequence s (r.groupKey s) rows = before ++ i :: b :: after) :
    Swaps s (r.groupKey s) before i b after rows (moveDown s i rows) := by
  rw [moveDown_of_split hr h]
  exact swaps_renumber h

/-- A row that was moved up is in its old neighbour's place, and moves down from there. -/
theorem restores_moveDown_moveUp (hr : rows[i]? = some r)
    (h : sequence s (r.groupKey s) rows = before ++ a :: i :: after) :
    Restores s (r.groupKey s) rows (moveDown s i (moveUp s i rows)) := by
  have hup := swaps_moveUp hr h
  obtain ⟨r', hr', hkey⟩ := exists_getElem?_renumber (s := s) (before ++ i :: a :: after) hr
  rw [← moveUp_of_split hr h] at hr'
  have hdown := swaps_moveDown hr' (by rw [hkey, hup.swapped])
  rw [hkey] at hdown
  exact hup.restores hdown

theorem restores_moveUp_moveDown (hr : rows[i]? = some r)
    (h : sequence s (r.groupKey s) rows = before ++ i :: b :: after) :
    Restores s (r.groupKey s) rows (moveUp s i (moveDown s i rows)) := by
  have hdown := swaps_moveDown hr h
  obtain ⟨r', hr', hkey⟩ := exists_getElem?_renumber (s := s) (before ++ b :: i :: after) hr
  rw [← moveDown_of_split hr h] at hr'
  have hup := swaps_moveUp hr' (by rw [hkey, hdown.swapped])
  rw [hkey] at hup
  exact hdown.restores hup

end Move

/-- **A move swaps two neighbours.** A move of no row changes nothing, nor does a move of the first
row of a group up or of the last one down. Every other move swaps the row with its neighbour, and
the opposite move of the same row takes it back. -/
theorem moves_swap_neighbours (s : Settings) (rows : List Row) (index : Int) :
    (index < 0 ∨ (rows.length : Int) ≤ index →
      moveUp s index rows = rows ∧ moveDown s index rows = rows) ∧
    ∀ (i : Nat) (r : Row) (key : String), index = i → rows[i]? = some r → r.groupKey s = key →
      ((sequence s key rows).head? = some i → moveUp s index rows = rows) ∧
      ((sequence s key rows).head? ≠ some i → ∃ before a after,
        Swaps s key before a i after rows (moveUp s index rows) ∧
        Restores s key rows (moveDown s index (moveUp s index rows))) ∧
      ((sequence s key rows).getLast? = some i → moveDown s index rows = rows) ∧
      ((sequence s key rows).getLast? ≠ some i → ∃ before b after,
        Swaps s key before i b after rows (moveDown s index rows) ∧
        Restores s key rows (moveUp s index (moveDown s index rows))) := by
  refine ⟨fun hout => ⟨exchangeWith_of_out hout, exchangeWith_of_out hout⟩, ?_⟩
  rintro i r _ rfl hr rfl
  refine ⟨moveUp_of_first hr, fun hfirst => ?_, moveDown_of_last hr, fun hlast => ?_⟩
  · obtain ⟨before, a, after, hsplit⟩ := exists_before hr hfirst
    exact ⟨before, a, after, swaps_moveUp hr hsplit, restores_moveDown_moveUp hr hsplit⟩
  · obtain ⟨before, b, after, hsplit⟩ := exists_after hr hlast
    exact ⟨before, b, after, swaps_moveDown hr hsplit, restores_moveUp_moveDown hr hsplit⟩

/-- A group with a negative order, two rows of one order, and a row without an order. -/
theorem moves_swap_neighbours_tied :
    let rows : List Row :=
      [{ label := .text "A", order := some 1 }, { area := .list, order := some 0 },
       { label := .text "B" }, { label := .text "C", order := some 1 },
       { label := .text "D", order := some (-3) }]
    sequence .builtin "header:Main:" rows = [4, 0, 3, 2] ∧ moveUp .builtin (-1) rows = rows ∧
      moveUp .builtin 4 rows = rows ∧ moveDown .builtin 2 rows = rows ∧
      ∃ before a after,
        Swaps .builtin "header:Main:" before a 3 after rows (moveUp .builtin 3 rows) ∧
        Restores .builtin "header:Main:" rows
          (moveDown .builtin 3 (moveUp .builtin 3 rows)) := by
  intro rows
  have hdisplayed : displayed .builtin "header:Main:" rows =
      [(rows[0], 0), (rows[2], 2), (rows[3], 3), (rows[4], 4)].mergeSort _ := rfl
  have hsequence : sequence .builtin "header:Main:" rows = [4, 0, 3, 2] := by
    rw [sequence, hdisplayed]
    simp [List.mergeSort, List.MergeSort.Internal.splitInTwo, rows]
  have hkey : ∀ r ∈ rows, r.area = .header → r.groupKey .builtin = "header:Main:" := by
    decide +kernel
  have hmoves (i : Nat) (h : i < rows.length) (harea : rows[i].area = .header) :=
    (moves_swap_neighbours .builtin rows i).2 i rows[i] "header:Main:" rfl
      (List.getElem?_eq_getElem h) (hkey _ (List.getElem_mem h) harea)
  simp only [hsequence] at hmoves
  exact ⟨hsequence, ((moves_swap_neighbours .builtin rows (-1)).1 (by decide)).1,
    (hmoves 4 (by decide) rfl).1 rfl, (hmoves 2 (by decide) rfl).2.2.1 rfl,
    (hmoves 3 (by decide) rfl).2.1 (by decide)⟩

end Formwork.Row
