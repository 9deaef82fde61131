import Formwork.Proofs.Layered.Path

/-!
# The search as a loop

The search needs no recursion: a loop does it that keeps the path on a stack, every node of it with
the children at which it has still to look. The loop comes to an end whatever the graph is, and
finds the edges that the recursion finds. Each of them leads back to a node from which a path leads
to its start, so that only edges on cycles are turned round.
-/
namespace Formwork.Layered

open Relation (TransGen ReflTransGen)

/-- Where the loop stands. -/
structure Walk where
  /-- The nodes from which the search has still to begin. -/
  roots : List String
  /-- The path from the root, its end first, and the children still to be looked at. -/
  stack : List (String × List String)
  found : Search

variable {nodes : List String} {edges : List Edge}

/-- The edges that are no loops. -/
def loopless (edges : List Edge) : List Edge :=
  edges.filter (fun e => e.1 != e.2)

theorem leads_of_mem_successors {u v : String} (h : v ∈ successors edges u) :
    Leads (loopless edges) u v := by
  obtain ⟨hedge, hne⟩ := mem_successors.mp h
  exact List.mem_filter.mpr ⟨hedge, by simpa using hne.symm⟩

namespace Walk

def start (nodes : List String) : Walk :=
  { roots := nodes, stack := [], found := {} }

/-- One turn of the loop, none once nothing is left to be done. -/
def step? (edges : List Edge) : Walk → Option Walk
  | ⟨[], [], _⟩ => none
  | ⟨root :: roots, [], s⟩ =>
    if root ∈ s.done then some ⟨roots, [], s⟩
    else some ⟨roots, [(root, successors edges root)], s⟩
  | ⟨roots, (node, []) :: stack, s⟩ => some ⟨roots, stack, { s with done := node :: s.done }⟩
  | ⟨roots, (node, child :: children) :: stack, s⟩ =>
    if child ∈ node :: stack.map (·.1) then
      some ⟨roots, (node, children) :: stack, { s with back := (node, child) :: s.back }⟩
    else if child ∈ s.done then some ⟨roots, (node, children) :: stack, s⟩
    else some ⟨roots, (child, successors edges child) :: (node, children) :: stack, s⟩

/-- What one turn can do. -/
inductive Turn (edges : List Edge) : Walk → Walk → Prop
  /-- A root that is done needs no search. -/
  | skip {root : String} {roots : List String} {s : Search} : root ∈ s.done →
    Turn edges ⟨root :: roots, [], s⟩ ⟨roots, [], s⟩
  /-- A search begins. -/
  | launch {root : String} {roots : List String} {s : Search} : root ∉ s.done →
    Turn edges ⟨root :: roots, [], s⟩ ⟨roots, [(root, successors edges root)], s⟩
  /-- The node at the end of the path has no children left. -/
  | finish (roots : List String) (node : String) (stack : List (String × List String))
    (s : Search) :
    Turn edges ⟨roots, (node, []) :: stack, s⟩ ⟨roots, stack, { s with done := node :: s.done }⟩
  /-- An edge leads back to the path. -/
  | back {roots : List String} {node child : String} {children : List String}
    {stack : List (String × List String)} {s : Search} : child ∈ node :: stack.map (·.1) →
    Turn edges ⟨roots, (node, child :: children) :: stack, s⟩
      ⟨roots, (node, children) :: stack, { s with back := (node, child) :: s.back }⟩
  /-- A child is done. -/
  | pass {roots : List String} {node child : String} {children : List String}
    {stack : List (String × List String)} {s : Search} : child ∉ node :: stack.map (·.1) →
    child ∈ s.done →
    Turn edges ⟨roots, (node, child :: children) :: stack, s⟩ ⟨roots, (node, children) :: stack, s⟩
  /-- A child is met for the first time. -/
  | enter {roots : List String} {node child : String} {children : List String}
    {stack : List (String × List String)} {s : Search} : child ∉ node :: stack.map (·.1) →
    child ∉ s.done →
    Turn edges ⟨roots, (node, child :: children) :: stack, s⟩
      ⟨roots, (child, successors edges child) :: (node, children) :: stack, s⟩

/-- The turns of the loop lead from one place to another. -/
abbrev Runs (edges : List Edge) : Walk → Walk → Prop :=
  ReflTransGen (Turn edges)

theorem step?_eq_some_iff {w w' : Walk} : w.step? edges = some w' ↔ Turn edges w w' := by
  constructor
  · intro h
    fun_cases step? edges w with
    | case1 s => cases h
    | case2 root roots s hdone =>
      simp only [step?, if_pos hdone, Option.some.injEq] at h
      exact h ▸ .skip hdone
    | case3 root roots s hdone =>
      simp only [step?, if_neg hdone, Option.some.injEq] at h
      exact h ▸ .launch hdone
    | case4 roots node stack s =>
      simp only [step?, Option.some.injEq] at h
      exact h ▸ .finish roots node stack s
    | case5 roots node child children stack s hpath =>
      simp only [step?, if_pos hpath, Option.some.injEq] at h
      exact h ▸ .back hpath
    | case6 roots node child children stack s hpath hdone =>
      simp only [step?, if_neg hpath, if_pos hdone, Option.some.injEq] at h
      exact h ▸ .pass hpath hdone
    | case7 roots node child children stack s hpath hdone =>
      simp only [step?, if_neg hpath, if_neg hdone, Option.some.injEq] at h
      exact h ▸ .enter hpath hdone
  · intro h
    cases h with
    | skip hdone => simp only [step?, if_pos hdone]
    | launch hdone => simp only [step?, if_neg hdone]
    | finish => simp only [step?]
    | back hpath => simp only [step?, if_pos hpath]
    | pass hpath hdone => simp only [step?, if_neg hpath, if_pos hdone]
    | enter hpath hdone => simp only [step?, if_neg hpath, if_neg hdone]

/-- Every run of the loop goes on to the end of one that has come to it. -/
theorem runs_to_stop {w stop w' : Walk} (hend : stop.step? edges = none)
    (hstop : Runs edges w stop) (h : Runs edges w w') : Runs edges w' stop := by
  refine runs_to_end (fun a b c hb hc => ?_) (fun t ht => ?_) hstop h
  · rw [← step?_eq_some_iff] at hb hc
    exact Option.some.inj (hb.symm.trans hc)
  · rw [← step?_eq_some_iff, hend] at ht
    cases ht

/-! ## The loop and the recursion -/

section Recursion

variable {fuel : Nat} {roots : List String} {stack : List (String × List String)} {node : String}
  {s : Search}

/-- The loop does what a visit with some fuel does, wherever stack and fuel together are no shorter
than the list of nodes. -/
def VisitRuns (nodes : List String) (edges : List Edge) (fuel : Nat) : Prop :=
  ∀ (roots : List String) (stack : List (String × List String)) (node : String) (s : Search),
    nodes.length ≤ stack.length + fuel → s.Sound nodes edges (node :: stack.map (·.1)) →
      Runs edges ⟨roots, (node, successors edges node) :: stack, s⟩
        ⟨roots, stack, visit edges fuel (stack.map (·.1)) node s⟩

theorem runs_follow (hedges : ∀ e ∈ edges, e.2 ∈ nodes) (hvisit : VisitRuns nodes edges fuel)
    (hfuel : nodes.length ≤ stack.length + 1 + fuel) {child : String} {children : List String}
    (hchild : child ∈ successors edges node)
    (h : s.Sound nodes edges (node :: stack.map (·.1))) :
    Runs edges ⟨roots, (node, child :: children) :: stack, s⟩
      ⟨roots, (node, children) :: stack, follow edges fuel (stack.map (·.1)) node s child⟩ := by
  obtain ⟨hedge, hne⟩ := mem_successors.mp hchild
  have hself : (child == node) = false := by simpa using hne
  simp only [follow, hself, Bool.false_or, List.contains_iff_mem]
  split
  · next hpath => exact .single (.back (List.mem_cons_of_mem node hpath))
  · next hpath =>
    have hout : child ∉ node :: stack.map (·.1) := by simpa [hne] using hpath
    split
    · next hdone => exact .single (.pass hout hdone)
    · next hdone =>
      refine .head (.enter hout hdone) (hvisit roots ((node, children) :: stack) child s ?_ ?_)
      · rw [List.length_cons]
        exact hfuel
      · exact h.push (hedges (node, child) hedge) hout hdone

/-- The children of a node, one after the other. -/
theorem runs_foldl (hedges : ∀ e ∈ edges, e.2 ∈ nodes) (hvisit : VisitRuns nodes edges fuel)
    (hfuel : nodes.length ≤ stack.length + 1 + fuel) {children : List String}
    (hchildren : children ⊆ successors edges node)
    (h : s.Sound nodes edges (node :: stack.map (·.1))) :
    Runs edges ⟨roots, (node, children) :: stack, s⟩
      ⟨roots, (node, []) :: stack,
        children.foldl (follow edges fuel (stack.map (·.1)) node) s⟩ := by
  induction children generalizing s with
  | nil => exact .refl
  | cons child children ih =>
    obtain ⟨hchild, hrest⟩ := List.cons_subset.mp hchildren
    have hlength : nodes.length ≤ (stack.map (·.1)).length + 1 + fuel := by simpa using hfuel
    obtain ⟨hsound, -, -⟩ := follow_sound hedges (visit_sound hedges fuel) hlength hchild h
    exact (runs_follow hedges hvisit hfuel hchild h).trans (ih hrest hsound)

theorem visit_runs (hedges : ∀ e ∈ edges, e.2 ∈ nodes) (fuel : Nat) :
    VisitRuns nodes edges fuel := by
  induction fuel with
  | zero =>
    intro roots stack node s hfuel h
    have hle := h.length_le
    simp only [List.length_cons, List.length_map] at hle
    omega
  | succ fuel ih =>
    intro roots stack node s hfuel h
    rw [visit_succ]
    exact (runs_foldl hedges ih (by omega) (List.Subset.refl _) h).tail (.finish roots node stack _)

/-- The roots, one after the other. -/
theorem runs_roots (hedges : ∀ e ∈ edges, e.2 ∈ nodes) (hroots : roots ⊆ nodes)
    (h : s.Sound nodes edges []) :
    Runs edges ⟨roots, [], s⟩ ⟨[], [], roots.foldl (searchFrom nodes edges) s⟩ := by
  induction roots generalizing s with
  | nil => exact .refl
  | cons root roots ih =>
    obtain ⟨hroot, hrest⟩ := List.cons_subset.mp hroots
    obtain ⟨hsound, -, -⟩ := searchFrom_sound hedges hroot h
    refine ReflTransGen.trans ?_ (ih hrest hsound)
    simp only [searchFrom, List.contains_iff_mem]
    split
    · next hdone => exact .single (.skip hdone)
    · next hdone =>
      exact .head (.launch hdone)
        (visit_runs hedges nodes.length roots [] root s (by simp)
          (h.push hroot List.not_mem_nil hdone))

/-- **The loop ends.** Every run of the loop goes on to one end, where the edges that lead back are
those of the recursion. -/
theorem exists_end (hedges : ∀ e ∈ edges, e.2 ∈ nodes) :
    ∃ stop : Walk, stop.step? edges = none ∧ stop.found.back = backEdges nodes edges ∧
      ∀ w, Runs edges (start nodes) w → Runs edges w stop := by
  have hstop := runs_roots hedges (List.Subset.refl nodes) sound_empty
  exact ⟨_, rfl, rfl, fun w hw => runs_to_stop rfl hstop hw⟩

end Recursion

/-! ## Edges that lead back -/

/-- What the loop keeps: children are looked at along edges, the path is one, and an edge that leads
back has a path from its end to its start. -/
structure Sound (edges : List Edge) (w : Walk) : Prop where
  children : ∀ p ∈ w.stack, p.2 ⊆ successors edges p.1
  path : (w.stack.map (·.1)).Pairwise (fun v u => TransGen (Leads (loopless edges)) u v)
  back : ∀ e ∈ w.found.back, TransGen (Leads (loopless edges)) e.2 e.1

/-- A turn keeps it. -/
theorem Sound.turn {w w' : Walk} (h : w.Sound edges) (hturn : Turn edges w w') :
    w'.Sound edges := by
  obtain ⟨hchildren, hpath, hback⟩ := h
  cases hturn with
  | skip => exact ⟨hchildren, hpath, hback⟩
  | @launch root =>
    refine ⟨?_, List.pairwise_singleton _ _, hback⟩
    rintro p hp
    rw [List.mem_singleton.mp hp]
    exact List.Subset.refl _
  | finish =>
    exact ⟨(List.forall_mem_cons.mp hchildren).2, (List.pairwise_cons.mp hpath).2, hback⟩
  | @back roots node child children stack s hon =>
    obtain ⟨hnode, hstack⟩ := List.forall_mem_cons.mp hchildren
    obtain ⟨hchild, hrest⟩ := List.cons_subset.mp hnode
    refine ⟨List.forall_mem_cons.mpr ⟨hrest, hstack⟩, hpath, List.forall_mem_cons.mpr ⟨?_, hback⟩⟩
    -- The child is no loop, so that it stands on the path before the node.
    have hbefore : child ∈ stack.map (·.1) :=
      (List.mem_cons.mp hon).resolve_left (mem_successors.mp hchild).2
    exact (List.pairwise_cons.mp hpath).1 child hbefore
  | @pass roots node child children stack s =>
    obtain ⟨hnode, hstack⟩ := List.forall_mem_cons.mp hchildren
    exact ⟨List.forall_mem_cons.mpr ⟨(List.cons_subset.mp hnode).2, hstack⟩, hpath, hback⟩
  | @enter roots node child children stack s =>
    obtain ⟨hnode, hstack⟩ := List.forall_mem_cons.mp hchildren
    obtain ⟨hchild, hrest⟩ := List.cons_subset.mp hnode
    have hedge : Leads (loopless edges) node child := leads_of_mem_successors hchild
    refine ⟨?_, List.pairwise_cons.mpr ⟨?_, hpath⟩, hback⟩
    · exact List.forall_mem_cons.mpr
        ⟨List.Subset.refl _, List.forall_mem_cons.mpr ⟨hrest, hstack⟩⟩
    · intro u hu
      rcases List.mem_cons.mp hu with rfl | hu
      · exact .single hedge
      · exact .tail ((List.pairwise_cons.mp hpath).1 u hu) hedge

theorem sound_start (nodes : List String) : (start nodes).Sound edges := by
  constructor <;> simp [start]

/-- A whole run keeps it. -/
theorem Sound.run {w w' : Walk} (h : w.Sound edges) (hrun : Runs edges w w') : w'.Sound edges := by
  induction hrun with
  | refl => exact h
  | tail _ hturn ih => exact ih.turn hturn

end Walk

/-- An edge that leads back closes a cycle. -/
theorem transGen_of_mem_backEdges (hedges : ∀ e ∈ edges, e.2 ∈ nodes) {e : Edge}
    (h : e ∈ backEdges nodes edges) : TransGen (Leads (loopless edges)) e.2 e.1 := by
  obtain ⟨stop, -, hback, hruns⟩ := Walk.exists_end hedges
  have hsound : stop.Sound edges := (Walk.sound_start nodes).run (hruns _ .refl)
  exact hsound.back e (hback ▸ h)

/-! ## Cycles are broken -/

/-- The edges of a graph turned so that they close no cycle: loops are left out, only edges on
cycles are turned round, and none where there is no cycle. -/
structure BreaksCycles (edges turned : List Edge) : Prop where
  each : List.Forall₂
    (fun e t => t = e ∨ t = e.swap ∧ TransGen (Leads (loopless edges)) e.2 e.1)
    (loopless edges) turned
  acyclic : Acyclic turned
  unchanged : Acyclic (loopless edges) → turned = loopless edges

theorem acyclicEdges_eq (nodes : List String) (edges : List Edge) :
    acyclicEdges nodes edges = (loopless edges).map
      (fun e => if e ∈ backEdges nodes edges then e.swap else e) := by
  simp only [acyclicEdges, loopless, List.contains_iff_mem]
  rfl

theorem loopless_of_acyclic (h : Acyclic edges) : loopless edges = edges := by
  refine List.filter_eq_self.mpr fun e he => bne_iff_ne.mpr fun hloop => h e.1 (.single ?_)
  have hself : (e.1, e.2) ∈ edges := he
  rwa [← hloop] at hself

/-- A graph that has no cycle beside its loops keeps its other edges. -/
theorem acyclicEdges_of_acyclic (hedges : ∀ e ∈ edges, e.2 ∈ nodes)
    (h : Acyclic (loopless edges)) : acyclicEdges nodes edges = loopless edges := by
  rw [acyclicEdges_eq, List.map_congr_left (g := id), List.map_id]
  intro e he
  have hnot : e ∉ backEdges nodes edges := fun hback =>
    h e.1 (.head he (transGen_of_mem_backEdges hedges hback))
  rw [if_neg hnot, id]

/-- A graph without cycles is left as it is. -/
theorem acyclicEdges_eq_self (hedges : ∀ e ∈ edges, e.2 ∈ nodes) (h : Acyclic edges) :
    acyclicEdges nodes edges = edges := by
  have hloopless := loopless_of_acyclic h
  rw [acyclicEdges_of_acyclic hedges (by rwa [hloopless]), hloopless]

/-- **Cycles are broken and nothing else.** The loop of the search ends for every graph, with the
edges that the recursion turns round. The result has one edge for every edge but the loops, in
order: the edge itself, or its reverse where it lies on a cycle. No cycle is left, and a graph that
has none beside its loops keeps its edges. -/
theorem breaksCycles_acyclicEdges (hedges : ∀ e ∈ edges, e.1 ∈ nodes ∧ e.2 ∈ nodes) :
    (∃ stop : Walk, stop.step? edges = none ∧ stop.found.back = backEdges nodes edges ∧
      ∀ w, Walk.Runs edges (Walk.start nodes) w → Walk.Runs edges w stop) ∧
    BreaksCycles edges (acyclicEdges nodes edges) := by
  have htargets : ∀ e ∈ edges, e.2 ∈ nodes := fun e he => (hedges e he).2
  have hcloses : ∀ e ∈ backEdges nodes edges, TransGen (Leads (loopless edges)) e.2 e.1 :=
    fun e he => transGen_of_mem_backEdges htargets he
  refine ⟨Walk.exists_end htargets, ?_, ?_, acyclicEdges_of_acyclic htargets⟩
  · rw [acyclicEdges_eq, List.forall₂_map_right_iff, List.forall₂_same]
    intro e _
    split
    · next hback => exact Or.inr ⟨rfl, hcloses e hback⟩
    · exact Or.inl rfl
  · obtain ⟨rank, hrank⟩ := exists_rank hedges
    exact acyclic_of_rank hrank

/-- A loop is left out, and of a cycle the edge is turned that leads back to its first node. -/
theorem breaksCycles_acyclicEdges_triangle :
    let nodes := ["A", "B", "C"]
    let edges := [("A", "B"), ("B", "C"), ("C", "A"), ("A", "A"), ("A", "B")]
    (∀ e ∈ edges, e.1 ∈ nodes ∧ e.2 ∈ nodes) ∧
      acyclicEdges nodes edges = [("A", "B"), ("B", "C"), ("A", "C"), ("A", "B")] ∧
      BreaksCycles edges [("A", "B"), ("B", "C"), ("A", "C"), ("A", "B")] := by
  intro nodes edges
  have hedges : ∀ e ∈ edges, e.1 ∈ nodes ∧ e.2 ∈ nodes := by decide
  have hturned : acyclicEdges nodes edges = [("A", "B"), ("B", "C"), ("A", "C"), ("A", "B")] := by
    decide +kernel
  have hbreaks := (breaksCycles_acyclicEdges hedges).2
  rw [hturned] at hbreaks
  exact ⟨hedges, hturned, hbreaks⟩

end Formwork.Layered
