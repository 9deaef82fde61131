import Mathlib.Order.Bounds.Defs
import Formwork.Proofs.Layered.Layers
import Formwork.Proofs.Layered.Path

/-!
# Layers are longest paths

What remains when free nodes have been taken away a number of times are the nodes at which a path of
that many edges ends. So a node is taken with the layer of its longest path, and the nodes that are
never taken are those at which paths of every length end, which are those behind a cycle.
-/
namespace Formwork.Layered

variable {nodes : List String} {edges : List Edge}

/-- What remains after a number of layers: the nodes at which a path of that many edges ends. -/
def Remains (nodes : List String) (edges : List Edge) (i : Nat) (remaining : List String) : Prop :=
  ∀ n, n ∈ remaining ↔ n ∈ nodes ∧ EndsPath edges i n

theorem remains_nodes : Remains nodes edges 0 nodes :=
  fun n => ⟨fun hn => ⟨hn, .start n⟩, fun h => h.1⟩

/-- One more layer is taken. -/
theorem Remains.held {i : Nat} {remaining : List String} (hedges : ∀ e ∈ edges, e.1 ∈ nodes)
    (h : Remains nodes edges i remaining) :
    Remains nodes edges (i + 1) (held edges remaining) := by
  intro n
  rw [mem_held]
  constructor
  · rintro ⟨hn, u, hu, hedge⟩
    exact ⟨((h n).mp hn).1, .step ((h u).mp hu).2 hedge⟩
  · rintro ⟨hn, hpath⟩
    refine ⟨(h n).mpr ⟨hn, hpath.pred⟩, ?_⟩
    cases hpath with
    | @step _ u _ hpath hedge => exact ⟨u, (h u).mpr ⟨hedges (u, n) hedge, hpath⟩, hedge⟩

/-- Where no node is free, none is taken. -/
theorem held_eq_self {remaining : List String}
    (h : ¬ (held edges remaining).length < remaining.length) : held edges remaining = remaining :=
  List.filter_sublist.eq_of_length_le (Nat.le_of_not_lt h)

open scoped Classical in
/-- The nodes behind a cycle are never taken, and no others. -/
theorem peel_snd (hedges : ∀ e ∈ edges, e.1 ∈ nodes) (remaining : List String) :
    ∀ i, Remains nodes edges i remaining →
      (peel edges remaining).2 = remaining.filter (fun n => BehindCycle edges n) := by
  induction remaining using peel.induct edges with
  | case1 remaining hlt layers stuck heq ih =>
    intro i hremains
    have hheld := hremains.held hedges
    rw [peel_of_lt hlt, ih (i + 1) hheld, held, List.filter_filter]
    refine List.filter_congr fun n hn => ?_
    by_cases hbehind : BehindCycle edges n
    · have hmem : n ∈ held edges remaining :=
        (hheld n).mpr ⟨((hremains n).mp hn).1, hbehind.endsPath (i + 1)⟩
      simp [hbehind, (List.mem_filter.mp hmem).2]
    · simp [hbehind]
  | case2 remaining hnot =>
    intro i _
    have hall : ∀ n ∈ remaining, BehindCycle edges n := by
      refine behindCycle_of_forall_exists fun n hn => ?_
      rw [← held_eq_self hnot] at hn
      exact (mem_held.mp hn).2
    rw [peel_of_not_lt hnot, eq_comm, List.filter_eq_self]
    exact fun n hn => decide_eq_true (hall n hn)

/-- A node that is taken is taken with the layer of its longest path. -/
theorem isGreatest_layerOf_peel (hedges : ∀ e ∈ edges, e.1 ∈ nodes) (remaining : List String) :
    ∀ i, Remains nodes edges i remaining → ∀ n ∈ remaining, ¬ BehindCycle edges n →
      IsGreatest { k | EndsPath edges k n } (i + layerOf (peel edges remaining).1 n) := by
  induction remaining using peel.induct edges with
  | case1 remaining hlt layers stuck heq ih =>
    intro i hremains n hn hfree
    have hheld := hremains.held hedges
    rw [peel_of_lt hlt, layerOf_cons]
    split
    · next htaken =>
      refine ⟨((hremains n).mp hn).2, fun k hk => ?_⟩
      by_contra hlong
      have hpath : EndsPath edges (i + 1) n := EndsPath.mono hk (by omega)
      exact (mem_free.mp htaken).2 ((hheld n).mpr ⟨((hremains n).mp hn).1, hpath⟩)
    · next hleft =>
      have hmem : n ∈ held edges remaining := by
        by_contra hnot
        exact hleft (mem_free.mpr ⟨hn, hnot⟩)
      have hgreatest := ih (i + 1) hheld n hmem hfree
      rwa [Nat.add_assoc, Nat.add_comm 1] at hgreatest
  | case2 remaining hnot =>
    intro i _ n hn hfree
    refine absurd (behindCycle_of_forall_exists (fun m hm => ?_) n hn) hfree
    rw [← held_eq_self hnot] at hm
    exact (mem_held.mp hm).2

/-- A node that is taken has a row. -/
theorem layerOf_peel_lt (remaining : List String) :
    ∀ n ∈ remaining, n ∉ (peel edges remaining).2 →
      layerOf (peel edges remaining).1 n < (peel edges remaining).1.length := by
  induction remaining using peel.induct edges with
  | case1 remaining hlt layers stuck heq ih =>
    intro n hn hstuck
    rw [peel_of_lt hlt] at hstuck ⊢
    rw [layerOf_cons, List.length_cons]
    split
    · omega
    · next hleft =>
      have hmem : n ∈ held edges remaining := by
        by_contra hnot
        exact hleft (mem_free.mpr ⟨hn, hnot⟩)
      have hlt := ih n hmem hstuck
      omega
  | case2 remaining hnot =>
    intro n hn hstuck
    rw [peel_of_not_lt hnot] at hstuck
    exact absurd hn hstuck

/-- Every row holds nodes, and these are the nodes of its layer in order. -/
theorem peel_row (remaining : List String) :
    ∀ j (hj : j < (peel edges remaining).1.length), (peel edges remaining).1[j] ≠ [] ∧
      (peel edges remaining).1[j] =
        remaining.filter (fun n => layerOf (peel edges remaining).1 n == j) := by
  induction remaining using peel.induct edges with
  | case1 remaining hlt layers stuck heq ih =>
    rw [peel_of_lt hlt]
    intro j hj
    cases j with
    | zero =>
      refine ⟨free_ne_nil hlt, List.filter_congr fun n hn => ?_⟩
      have hmem : n ∈ free edges remaining ↔ isHeld edges remaining n = false := by
        simp [free, hn]
      rw [layerOf_cons]
      by_cases hheld : isHeld edges remaining n <;> simp [hmem, hheld]
    | succ j =>
      obtain ⟨hne, hrow⟩ := ih j (by simpa using hj)
      refine ⟨hne, ?_⟩
      rw [List.getElem_cons_succ, hrow, held, List.filter_filter]
      refine List.filter_congr fun n hn => ?_
      have hmem : n ∈ free edges remaining ↔ isHeld edges remaining n = false := by
        simp [free, hn]
      rw [layerOf_cons]
      by_cases hheld : isHeld edges remaining n <;> simp [hmem, hheld]
  | case2 remaining hnot =>
    rw [peel_of_not_lt hnot]
    intro j hj
    simp at hj

/-! ## The layers of a graph -/

/-- Rows that hold the nodes by the lengths of their longest paths. -/
structure ByLongestPath (nodes : List String) (edges : List Edge) (rows : List (List String)) :
    Prop where
  longest : ∀ n ∈ nodes, IsGreatest { k | EndsPath edges k n } (layerOf rows n)
  deeper : ∀ e ∈ edges, layerOf rows e.1 < layerOf rows e.2
  filled : ∀ n ∈ nodes, ∀ j ≤ layerOf rows n, ∃ m ∈ nodes, layerOf rows m = j
  within : ∀ n ∈ nodes, layerOf rows n < rows.length
  row_eq : ∀ j (hj : j < rows.length), rows[j] ≠ [] ∧
    rows[j] = nodes.filter (fun n => layerOf rows n == j)

theorem peel_byLongestPath (hedges : ∀ e ∈ edges, e.1 ∈ nodes ∧ e.2 ∈ nodes)
    (hacyclic : Acyclic edges) : ByLongestPath nodes edges (peel edges nodes).1 := by
  have hsources : ∀ e ∈ edges, e.1 ∈ nodes := fun e he => (hedges e he).1
  have hfree : ∀ n, ¬ BehindCycle edges n := fun n ⟨m, hcycle, _⟩ => hacyclic m hcycle
  have hlongest : ∀ n ∈ nodes,
      IsGreatest { k | EndsPath edges k n } (layerOf (peel edges nodes).1 n) := by
    intro n hn
    simpa using isGreatest_layerOf_peel hsources nodes 0 remains_nodes n hn (hfree n)
  have hwithin : ∀ n ∈ nodes, layerOf (peel edges nodes).1 n < (peel edges nodes).1.length := by
    intro n hn
    refine layerOf_peel_lt nodes n hn ?_
    simp [peel_snd hsources nodes 0 remains_nodes, hfree]
  refine ⟨hlongest, ?_, ?_, hwithin, peel_row nodes⟩
  · intro e he
    obtain ⟨hs, ht⟩ := hedges e he
    exact (hlongest e.2 ht).2 (EndsPath.step (hlongest e.1 hs).1 he)
  · intro n hn j hj
    obtain ⟨hne, hrow⟩ := peel_row nodes j (hj.trans_lt (hwithin n hn))
    obtain ⟨m, hm⟩ := List.exists_mem_of_ne_nil _ hne
    rw [hrow, List.mem_filter] at hm
    exact ⟨m, hm.1, by simpa using hm.2⟩

open scoped Classical in
/-- The layers of a graph are found where no cycle is in the way. -/
theorem layers_eq (hedges : ∀ e ∈ edges, e.1 ∈ nodes ∧ e.2 ∈ nodes) :
    layers nodes edges =
      if Acyclic edges then .ok (peel edges nodes).1
      else .error (.cyclic (nodes.filter (fun n => BehindCycle edges n))) := by
  have hstuck := peel_snd (fun e he => (hedges e he).1) nodes 0 remains_nodes
  have hnil : nodes.filter (fun n => BehindCycle edges n) = [] ↔ Acyclic edges := by
    rw [List.filter_eq_nil_iff, acyclic_iff fun e he => (hedges e he).2]
    simp
  simp only [layers, List.isEmpty_iff, hstuck, hnil]

end Formwork.Layered
