import Formwork.Proofs.Row.Display

/-!
# Normal orders

Normalising goes through the groups and gives the rows of each their ranks in its display sequence,
as it was before anything was renumbered. The groups share no rows, so that in the end every row has
the rank that it had in the original list, and nothing is shown in another sequence than before.
-/
namespace Formwork.Row

variable {s : Settings} {key : String} {rows done : List Row}

/-- The row at a place with its rank in its group as order. -/
def normalized (s : Settings) (rows : List Row) (i : Nat) (r : Row) : Row :=
  { r with order := some ((sequence s (r.groupKey s) rows).idxOf i : Int) }

/-- The rows of some groups have their ranks as orders, all others are as they were. -/
def NumberedIn (s : Settings) (rows : List Row) (keys : List String) (done : List Row) : Prop :=
  ∀ i : Nat, done[i]? =
    rows[i]?.map (fun r => if r.groupKey s ∈ keys then normalized s rows i r else r)

/-- Rows have new orders and are shown as before. -/
structure Normalizes (s : Settings) (rows done : List Row) : Prop where
  /-- Rows keep their places in the list and everything but their orders. -/
  kept : done.map unordered = rows.map unordered
  /-- The orders of a group, in the display sequence that it had, are the numbers from zero on. -/
  orders : ∀ key, (sequence s key rows).map (fun i => done[i]?.bind (·.order)) =
    (List.range (sequence s key rows).length).map (fun n : Nat => some (n : Int))
  shown : ∀ key, (sortGroup s key done).map unordered = (sortGroup s key rows).map unordered
  shownAll : (sortByOrder s done).map unordered = (sortByOrder s rows).map unordered

@[simp] theorem groupKey_normalized (i : Nat) (r : Row) :
    (normalized s rows i r).groupKey s = r.groupKey s := rfl

/-! ## One group after the other -/

/-- Renumbering one more group. -/
theorem NumberedIn.step {keys : List String} (h : NumberedIn s rows keys done) (key : String) :
    NumberedIn s rows (key :: keys) (renumber (sequence s key rows) done) := by
  intro i
  rw [getElem?_renumber, h i, Option.map_map]
  refine Option.map_congr fun r hr => ?_
  show ranked (sequence s key rows) i (if r.groupKey s ∈ keys then normalized s rows i r else r) =
    if r.groupKey s ∈ key :: keys then normalized s rows i r else r
  by_cases hkey : r.groupKey s = key
  · have hplace : i ∈ sequence s key rows := mem_sequence.mpr ⟨r, hr, hkey⟩
    have hmem : r.groupKey s ∈ key :: keys := hkey ▸ List.mem_cons_self
    rw [ranked_of_mem hplace, if_pos hmem, normalized, hkey]
    split <;> rfl
  · have hplace : i ∉ sequence s key rows := by
      rw [mem_sequence, hr]
      simpa using hkey
    rw [ranked_of_notMem hplace]
    simp only [List.mem_cons, hkey, false_or]

theorem NumberedIn.run {keys : List String} (h : NumberedIn s rows keys done)
    (next : List String) :
    NumberedIn s rows (next.reverse ++ keys)
      (next.foldl (fun done key => renumber (sequence s key rows) done) done) := by
  induction next generalizing keys done with
  | nil => exact h
  | cons key next ih =>
    rw [List.reverse_cons, List.append_assoc]
    exact ih (h.step key)

/-- In the end every row has its rank. -/
theorem getElem?_normalizeOrders (s : Settings) (rows : List Row) (i : Nat) :
    (normalizeOrders s rows)[i]? = rows[i]?.map (normalized s rows i) := by
  have hstart : NumberedIn s rows [] rows := fun j => by simp
  have hend := hstart.run (groupKeys s rows) i
  rw [List.append_nil] at hend
  refine hend.trans (Option.map_congr fun r hr => ?_)
  have hkey : r.groupKey s ∈ (groupKeys s rows).reverse :=
    List.mem_reverse.mpr (mem_distinct.mpr (List.mem_map_of_mem (List.mem_of_getElem? hr)))
  rw [if_pos hkey]

/-! ## Normal lists -/

theorem map_unordered_normalizeOrders (s : Settings) (rows : List Row) :
    (normalizeOrders s rows).map unordered = rows.map unordered := by
  refine List.ext_getElem? fun i => ?_
  rw [List.getElem?_map, getElem?_normalizeOrders, Option.map_map, List.getElem?_map]
  rfl

theorem groupKeys_normalizeOrders (s : Settings) (rows : List Row) :
    groupKeys s (normalizeOrders s rows) = groupKeys s rows := by
  have hkeys : ∀ l : List Row, l.map (groupKey s) = (l.map unordered).map (groupKey s) := by
    intro l
    rw [List.map_map]
    rfl
  rw [groupKeys, groupKeys, hkeys, map_unordered_normalizeOrders, ← hkeys]

theorem ranked_normalizeOrders (s : Settings) (key : String) (rows : List Row) :
    Ranked s key (sequence s key rows) (normalizeOrders s rows) where
  nodup := nodup_sequence s key rows
  mem := fun i => by
    rw [mem_sequence, mem_sequence, getElem?_normalizeOrders]
    simp
  order := by
    intro x hx
    obtain ⟨hrow, hkey⟩ := mem_displayed.mp hx
    rw [getElem?_normalizeOrders] at hrow
    obtain ⟨r, -, hr⟩ := Option.map_eq_some_iff.mp hrow
    rw [← hr, groupKey_normalized] at hkey
    rw [← hr, normalized, hkey]

theorem sequence_normalizeOrders (s : Settings) (key : String) (rows : List Row) :
    sequence s key (normalizeOrders s rows) = sequence s key rows :=
  (ranked_normalizeOrders s key rows).sequence_eq

theorem map_unordered_sortGroup_normalizeOrders (s : Settings) (key : String) (rows : List Row) :
    (sortGroup s key (normalizeOrders s rows)).map unordered =
      (sortGroup s key rows).map unordered := by
  rw [map_unordered_sortGroup, map_unordered_sortGroup, sequence_normalizeOrders,
    map_unordered_normalizeOrders]

/-- The orders of the rows of a group, in its display sequence. -/
theorem map_order_sortGroup (s : Settings) (key : String) (rows : List Row) :
    (sortGroup s key rows).map (·.order) =
      (sequence s key rows).map (fun i => rows[i]?.bind (·.order)) := by
  rw [sortGroup, sequence, List.map_map, List.map_map]
  refine List.map_congr_left fun x hx => ?_
  show x.1.order = rows[x.2]?.bind (·.order)
  rw [(mem_displayed.mp hx).1, Option.bind_some]

theorem normalizes_normalizeOrders (s : Settings) (rows : List Row) :
    Normalizes s rows (normalizeOrders s rows) where
  kept := map_unordered_normalizeOrders s rows
  orders := by
    intro key
    have horders := map_order_sortGroup s key (normalizeOrders s rows)
    rw [(ranked_normalizeOrders s key rows).map_order, sequence_normalizeOrders] at horders
    exact horders.symm
  shown := fun key => map_unordered_sortGroup_normalizeOrders s key rows
  shownAll := by
    rw [sortByOrder, sortByOrder, groupKeys_normalizeOrders, List.map_flatMap, List.map_flatMap]
    exact List.flatMap_congr fun key _ => map_unordered_sortGroup_normalizeOrders s key rows

theorem normalizeOrders_normalizeOrders (s : Settings) (rows : List Row) :
    normalizeOrders s (normalizeOrders s rows) = normalizeOrders s rows := by
  refine List.ext_getElem? fun i => ?_
  rw [getElem?_normalizeOrders, getElem?_normalizeOrders, Option.map_map]
  refine Option.map_congr fun r _ => ?_
  show normalized s (normalizeOrders s rows) i (normalized s rows i r) = normalized s rows i r
  rw [normalized, groupKey_normalized, sequence_normalizeOrders]
  rfl

/-- In a normal list every row has an order. -/
theorem order_ne_none_of_mem_normalizeOrders {r : Row} (h : r ∈ normalizeOrders s rows) :
    r.order ≠ none := by
  obtain ⟨i, hi⟩ := List.mem_iff_getElem?.mp h
  rw [getElem?_normalizeOrders] at hi
  obtain ⟨r', -, rfl⟩ := Option.map_eq_some_iff.mp hi
  exact Option.some_ne_none _

/-- **Normalising keeps the display.** -/
theorem normalizeOrders_keeps_display (s : Settings) (rows : List Row) :
    Normalizes s rows (normalizeOrders s rows) ∧
    normalizeOrders s (normalizeOrders s rows) = normalizeOrders s rows ∧
    sortByOrder s (sortByOrder s (normalizeOrders s rows)) =
      sortByOrder s (normalizeOrders s rows) ∧
    Grouped s (normalizeOrders s rows) (sortByOrder s (normalizeOrders s rows)) := by
  refine ⟨normalizes_normalizeOrders s rows, normalizeOrders_normalizeOrders s rows, ?_,
    grouped_sortByOrder s _⟩
  refine sortByOrder_sortByOrder_of_unmixed fun r hr r' _ _ hnone => ?_
  exact absurd hnone (order_ne_none_of_mem_normalizeOrders hr)

end Formwork.Row
