import Mathlib.Data.Finset.Dedup
import Mathlib.Data.Finset.Max
import Mathlib.Data.List.Forall2
import Formwork.Proofs.Layered.Search

/-!
# The layers of a graph

Where every edge leads up a rank, the node of the least rank among those that remain is free, so
that taking free nodes away comes to an end with nothing left. Every edge then leads to a deeper
layer. Sweeps only change the order within layers.
-/
namespace Formwork.Layered

theorem layerOf_cons (row : List String) (rows : List (List String)) (n : String) :
    layerOf (row :: rows) n = if n ∈ row then 0 else layerOf rows n + 1 := by
  by_cases h : n ∈ row <;> simp [layerOf, List.findIdx_cons, h]

/-- Rows that hold every node of a graph once, so that every edge leads to a deeper row. -/
structure Layering (nodes : List String) (edges : List Edge) (rows : List (List String)) :
    Prop where
  perm : rows.flatten.Perm nodes
  ne_nil : ∀ row ∈ rows, row ≠ []
  strict : ∀ e ∈ edges, e.1 ∈ nodes → e.2 ∈ nodes → layerOf rows e.1 < layerOf rows e.2

variable {edges : List Edge}

/-! ## Taking free nodes away -/

theorem mem_held {remaining : List String} {n : String} :
    n ∈ held edges remaining ↔ n ∈ remaining ∧ ∃ s ∈ remaining, (s, n) ∈ edges := by
  simp only [held, isHeld, List.mem_filter, List.any_eq_true, Bool.and_eq_true, beq_iff_eq,
    List.contains_iff_mem]
  constructor
  · rintro ⟨hn, ⟨s, t⟩, he, rfl, hs⟩
    exact ⟨hn, s, hs, he⟩
  · rintro ⟨hn, s, hs, he⟩
    exact ⟨hn, (s, n), he, rfl, hs⟩

theorem free_append_held_perm (edges : List Edge) (remaining : List String) :
    (free edges remaining ++ held edges remaining).Perm remaining :=
  List.perm_append_comm.trans (List.filter_append_perm (isHeld edges remaining) remaining)

theorem mem_free {remaining : List String} {n : String} :
    n ∈ free edges remaining ↔ n ∈ remaining ∧ n ∉ held edges remaining := by
  simp only [free, held, List.mem_filter, Bool.not_eq_true']
  constructor
  · rintro ⟨hn, hfree⟩
    exact ⟨hn, fun hheld => by simp [hfree] at hheld⟩
  · rintro ⟨hn, hheld⟩
    exact ⟨hn, by simpa [hn] using hheld⟩

theorem free_ne_nil {remaining : List String}
    (h : (held edges remaining).length < remaining.length) : free edges remaining ≠ [] := by
  intro hnil
  have hlen := (free_append_held_perm edges remaining).length_eq
  rw [hnil, List.nil_append] at hlen
  omega

theorem peel_of_lt {remaining : List String}
    (h : (held edges remaining).length < remaining.length) :
    peel edges remaining = (free edges remaining :: (peel edges (held edges remaining)).1,
      (peel edges (held edges remaining)).2) := by
  rw [peel, dif_pos h]

theorem peel_of_not_lt {remaining : List String}
    (h : ¬ (held edges remaining).length < remaining.length) :
    peel edges remaining = ([], remaining) := by
  rw [peel, dif_neg h]

variable {rank : String → Nat}

/-- The node of the least rank is free. -/
theorem length_held_lt (hrank : ∀ e ∈ edges, rank e.1 < rank e.2) {remaining : List String}
    (hne : remaining ≠ []) : (held edges remaining).length < remaining.length := by
  have hnonempty : remaining.toFinset.Nonempty := by simpa using hne
  obtain ⟨n, hn, hleast⟩ := remaining.toFinset.exists_min_image rank hnonempty
  rw [List.mem_toFinset] at hn
  refine List.length_filter_lt_length_iff_exists.mpr ⟨n, hn, ?_⟩
  intro hheld
  obtain ⟨-, s, hs, he⟩ := mem_held.mp (List.mem_filter.mpr ⟨hn, hheld⟩)
  have hlt : rank s < rank n := hrank (s, n) he
  have hle := hleast s (List.mem_toFinset.mpr hs)
  omega

/-- One layer of free nodes above a layering of the rest. -/
theorem Layering.cons {remaining : List String} {rows : List (List String)}
    (hfree : free edges remaining ≠ []) (h : Layering (held edges remaining) edges rows) :
    Layering remaining edges (free edges remaining :: rows) where
  perm := (h.perm.append_left _).trans (free_append_held_perm edges remaining)
  ne_nil := by
    intro row hrow
    rcases List.mem_cons.mp hrow with rfl | hrow
    · exact hfree
    · exact h.ne_nil row hrow
  strict := by
    intro e he hs ht
    have hheld : e.2 ∈ held edges remaining := mem_held.mpr ⟨ht, e.1, hs, he⟩
    have hdeep : e.2 ∉ free edges remaining := fun hf => (mem_free.mp hf).2 hheld
    rw [layerOf_cons, layerOf_cons, if_neg hdeep]
    split
    · omega
    · next hsource =>
      have hs' : e.1 ∈ held edges remaining := by
        by_contra hnot
        exact hsource (mem_free.mpr ⟨hs, hnot⟩)
      have hlt := h.strict e he hs' hheld
      omega

/-- Taking free nodes away leaves nothing behind. -/
theorem peel_layering (hrank : ∀ e ∈ edges, rank e.1 < rank e.2) (remaining : List String) :
    (peel edges remaining).2 = [] ∧ Layering remaining edges (peel edges remaining).1 := by
  induction remaining using peel.induct edges with
  | case1 remaining hlt layers stuck heq ih =>
    obtain ⟨hstuck, hlayers⟩ := ih
    rw [peel_of_lt hlt]
    exact ⟨hstuck, hlayers.cons (free_ne_nil hlt)⟩
  | case2 remaining hnot =>
    have hnil : remaining = [] := by
      by_contra hne
      exact hnot (length_held_lt hrank hne)
    rw [peel_of_not_lt hnot, hnil]
    exact ⟨rfl, List.Perm.refl _, by simp, by simp⟩

/-! ## Sweeps -/

theorem arrange_perm (neighbours : String → List String) (fixed row : List String) :
    (arrange neighbours fixed row).Perm row := by
  have hranked : ((row.zipIdx.map
      (fun e => (e.1, barycenter fixed (neighbours e.1) e.2))).map (·.1)) = row := by
    rw [List.map_map]
    exact List.zipIdx_map_fst 0 row
  exact ((List.mergeSort_perm _ _).map _).trans (List.Perm.of_eq hranked)

theorem sweepFrom_perm (neighbours : String → List String) (rows : List (List String)) :
    ∀ fixed, List.Forall₂ List.Perm (sweep.sweepFrom neighbours fixed rows) rows := by
  induction rows with
  | nil => exact fun fixed => List.Forall₂.nil
  | cons row rows ih =>
    intro fixed
    exact List.Forall₂.cons (arrange_perm neighbours fixed row) (ih _)

theorem sweep_perm (neighbours : String → List String) (rows : List (List String)) :
    List.Forall₂ List.Perm (sweep neighbours rows) rows := by
  cases rows with
  | nil => exact List.Forall₂.nil
  | cons row rows =>
    exact List.Forall₂.cons (List.Perm.refl row) (sweepFrom_perm neighbours rows row)

theorem perm_rows_trans {a b c : List (List String)} (hab : List.Forall₂ List.Perm a b)
    (hbc : List.Forall₂ List.Perm b c) : List.Forall₂ List.Perm a c := by
  induction hab generalizing c with
  | nil => exact hbc
  | cons hhead _ ih =>
    cases hbc with
    | cons hhead' htail' => exact List.Forall₂.cons (hhead.trans hhead') (ih htail')

/-- Sweeps change no more than the order within the layers. -/
theorem sweeps_perm (edges : List Edge) (count : Nat) :
    ∀ (downward : Bool) (rows : List (List String)),
      List.Forall₂ List.Perm (sweeps edges downward count rows) rows := by
  induction count with
  | zero =>
    intro downward rows
    exact List.forall₂_same.mpr fun row _ => List.Perm.refl row
  | succ count ih =>
    intro downward rows
    rw [sweeps]
    refine perm_rows_trans (ih _ _) ?_
    split
    · exact sweep_perm _ rows
    · have hup := List.forall₂_reverse_iff.mpr
        (sweep_perm (fun node => (edges.filter (·.1 == node)).map (·.2)) rows.reverse)
      rwa [List.reverse_reverse] at hup

theorem layerOf_congr {rows rows' : List (List String)} (h : List.Forall₂ List.Perm rows rows')
    (n : String) : layerOf rows n = layerOf rows' n := by
  induction h with
  | nil => rfl
  | cons hrow _ ih =>
    rw [layerOf_cons, layerOf_cons, ih]
    simp only [hrow.mem_iff]

theorem flatten_perm {rows rows' : List (List String)} (h : List.Forall₂ List.Perm rows rows') :
    rows.flatten.Perm rows'.flatten := by
  induction h with
  | nil => exact List.Perm.refl _
  | cons hrow _ ih => exact hrow.append ih

theorem exists_perm_of_mem {rows rows' : List (List String)} (h : List.Forall₂ List.Perm rows rows')
    {row : List String} (hrow : row ∈ rows) : ∃ row' ∈ rows', row.Perm row' := by
  induction h with
  | nil => exact absurd hrow List.not_mem_nil
  | cons hhead _ ih =>
    rcases List.mem_cons.mp hrow with rfl | hrow
    · exact ⟨_, List.mem_cons_self, hhead⟩
    · obtain ⟨row', hrow', hperm⟩ := ih hrow
      exact ⟨row', List.mem_cons_of_mem _ hrow', hperm⟩

/-- A layering stays one when the order within its rows changes. -/
theorem Layering.congr {nodes : List String} {rows rows' : List (List String)}
    (h : Layering nodes edges rows') (hrows : List.Forall₂ List.Perm rows rows') :
    Layering nodes edges rows where
  perm := (flatten_perm hrows).trans h.perm
  ne_nil := by
    intro row hrow
    obtain ⟨row', hrow', hperm⟩ := exists_perm_of_mem hrows hrow
    rintro rfl
    exact h.ne_nil row' hrow' hperm.nil_eq.symm
  strict := by
    intro e he hs ht
    rw [layerOf_congr hrows, layerOf_congr hrows]
    exact h.strict e he hs ht

/-! ## The layout -/

/-- **Layered placement never fails.** Whatever the edges between the nodes are, every node is
placed in a row, and every edge of the graph without cycles leads to a deeper row. -/
theorem exists_layering {κ : Type} [Coordinate κ] (p : Spacing κ) (count : Int)
    {nodes : List String} (size : String → Size κ)
    (hedges : ∀ e ∈ edges, e.1 ∈ nodes ∧ e.2 ∈ nodes) :
    ∃ rows, layout p count nodes size edges = .ok (place p size rows) ∧
      Layering nodes (acyclicEdges nodes edges) rows := by
  obtain ⟨rank, hrank⟩ := exists_rank hedges
  obtain ⟨hstuck, hlayers⟩ := peel_layering hrank nodes
  refine ⟨orderLayers (acyclicEdges nodes edges) count
    (peel (acyclicEdges nodes edges) nodes).1, ?_, hlayers.congr (sweeps_perm _ _ _ _)⟩
  have hok : layers nodes (acyclicEdges nodes edges) =
      .ok (peel (acyclicEdges nodes edges) nodes).1 := by
    simp only [layers, hstuck]
    rfl
  rw [layout, hok]
  rfl

end Formwork.Layered
