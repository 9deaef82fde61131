import Mathlib.Data.List.Nodup
import Formwork.Diagram.Layered

/-!
# The search that breaks cycles

The path of a search and the nodes that it is done with, read together, are an order of the nodes
that it has met. An edge that leads back runs against the order, and every other edge of a node
that is done runs along it. Once every node is done, turning the edges that lead back leaves edges
that all run along one order.
-/
namespace Formwork.Layered

/-- One node stands before another in an order. -/
def Before (order : List String) (u v : String) : Prop :=
  [u, v].Sublist order

theorem Before.mono {order order' : List String} {u v : String} (h : Before order u v)
    (hle : order.Sublist order') : Before order' u v :=
  List.Sublist.trans h hle

theorem before_append {l m : List String} {u v : String} (hu : u ∈ l) (hv : v ∈ m) :
    Before (l ++ m) u v :=
  (List.singleton_sublist.mpr hu).append (List.singleton_sublist.mpr hv)

theorem Before.idxOf_lt {order : List String} {u v : String} (hnd : order.Nodup)
    (h : Before order u v) : order.idxOf u < order.idxOf v := by
  induction order with
  | nil => exact absurd h (by simp [Before])
  | cons n order ih =>
    obtain ⟨hn, hnd⟩ := List.nodup_cons.mp hnd
    rcases List.sublist_cons_iff.mp h with hrest | ⟨rest, heq, hrest⟩
    · have hu : u ∈ order := hrest.subset (by simp)
      have hv : v ∈ order := hrest.subset (by simp)
      have hlt := ih hnd hrest
      have hnu : n ≠ u := fun he => hn (he ▸ hu)
      have hnv : n ≠ v := fun he => hn (he ▸ hv)
      rw [List.idxOf_cons_ne _ hnu, List.idxOf_cons_ne _ hnv]
      omega
    · obtain ⟨rfl, rfl⟩ := List.cons.inj heq
      have hv : v ∈ order := hrest.subset (by simp)
      have hne : u ≠ v := fun he => hn (he ▸ hv)
      rw [List.idxOf_cons_self, List.idxOf_cons_ne _ hne]
      omega

theorem mem_successors {edges : List Edge} {u v : String} :
    v ∈ successors edges u ↔ (u, v) ∈ edges ∧ v ≠ u := by
  simp only [successors, List.mem_map, List.mem_filter, Bool.and_eq_true, beq_iff_eq, bne_iff_ne]
  constructor
  · rintro ⟨⟨s, t⟩, ⟨he, rfl, hne⟩, rfl⟩
    exact ⟨he, hne⟩
  · rintro ⟨he, hne⟩
    exact ⟨(u, v), ⟨he, rfl, hne⟩, rfl⟩

namespace Search

/-- The order of the nodes that a search has met: those of the path from the root, then those that
are done, the last one first. -/
def order (path : List String) (s : Search) : List String :=
  path.reverse ++ s.done

/-- What a search keeps while a path leads to the node that it visits. -/
structure Sound (nodes : List String) (edges : List Edge) (path : List String) (s : Search) :
    Prop where
  nodup : (s.order path).Nodup
  known : ∀ n ∈ s.order path, n ∈ nodes
  against : ∀ e ∈ s.back, Before (s.order path) e.2 e.1
  along : ∀ u ∈ s.done, ∀ v ∈ successors edges u, (u, v) ∈ s.back ∨ Before (s.order path) u v

/-- A search that went on forgets nothing. -/
structure Extends (s s' : Search) : Prop where
  done : s.done ⊆ s'.done
  back : s.back ⊆ s'.back

theorem Extends.refl (s : Search) : Extends s s :=
  ⟨List.Subset.refl _, List.Subset.refl _⟩

theorem Extends.trans {s t u : Search} (h : Extends s t) (h' : Extends t u) : Extends s u :=
  ⟨List.Subset.trans h.done h'.done, List.Subset.trans h.back h'.back⟩

/-- The edge from a node to a child is dealt with: it leads back, or the child is done. -/
def Settles (s : Search) (node child : String) : Prop :=
  (node, child) ∈ s.back ∨ child ∈ s.done

theorem Settles.mono {s s' : Search} {node child : String} (h : s.Settles node child)
    (hext : Extends s s') : s'.Settles node child :=
  h.imp (hext.back ·) (hext.done ·)

variable {nodes path : List String} {edges : List Edge} {node : String} {s : Search}

/-- A path is no longer than there are nodes. -/
theorem Sound.length_le (h : Sound nodes edges path s) : path.length ≤ nodes.length := by
  have hnd : path.reverse.Nodup := (List.nodup_append.mp h.nodup).1
  have hsub : path.reverse ⊆ nodes := fun n hn => h.known n (List.mem_append_left _ hn)
  have hle := hnd.length_le_of_subset hsub
  simpa using hle

/-- The path is extended to a node that has not been met. -/
theorem Sound.push (h : Sound nodes edges path s) (hnode : node ∈ nodes) (hpath : node ∉ path)
    (hdone : node ∉ s.done) : Sound nodes edges (node :: path) s := by
  have horder : s.order (node :: path) = path.reverse ++ node :: s.done := by simp [order]
  have hle : (s.order path).Sublist (s.order (node :: path)) := by
    rw [horder]
    exact (List.Sublist.refl path.reverse).append (List.sublist_cons_self node s.done)
  constructor
  · rw [horder, List.nodup_middle, List.nodup_cons]
    refine ⟨?_, h.nodup⟩
    simp [hpath, hdone]
  · intro n hn
    rw [horder, List.mem_append, List.mem_cons] at hn
    rcases hn with hn | rfl | hn
    · exact h.known n (List.mem_append_left _ hn)
    · exact hnode
    · exact h.known n (List.mem_append_right _ hn)
  · exact fun e he => (h.against e he).mono hle
  · exact fun u hu v hv => (h.along u hu v hv).imp_right (·.mono hle)

/-- An edge to a node of the path leads back. -/
theorem Sound.turn (h : Sound nodes edges (node :: path) s) {child : String}
    (hchild : child ∈ path) :
    Sound nodes edges (node :: path) { s with back := (node, child) :: s.back } where
  nodup := h.nodup
  known := h.known
  against := by
    intro e he
    rcases List.mem_cons.mp he with rfl | he
    · have horder : s.order (node :: path) = path.reverse ++ node :: s.done := by simp [order]
      show Before (s.order (node :: path)) child node
      rw [horder]
      exact before_append (List.mem_reverse.mpr hchild) List.mem_cons_self
    · exact h.against e he
  along := by
    intro u hu v hv
    exact (h.along u hu v hv).imp_left (List.mem_cons_of_mem _)

/-- A node is done once all its edges are dealt with. The order stays as it is. -/
theorem Sound.finish (h : Sound nodes edges (node :: path) s)
    (hsettled : ∀ child ∈ successors edges node, s.Settles node child) :
    Sound nodes edges path { s with done := node :: s.done } := by
  -- The node moves from the end of the path to the head of the nodes that are done.
  have horder : order path { s with done := node :: s.done } = s.order (node :: path) := by
    simp [order]
  have hsplit : s.order (node :: path) = (node :: path).reverse ++ s.done := rfl
  constructor
  · rw [horder]
    exact h.nodup
  · rw [horder]
    exact h.known
  · rw [horder]
    exact h.against
  · rw [horder]
    intro u hu v hv
    rcases List.mem_cons.mp hu with rfl | hu
    · rcases hsettled v hv with hback | hdone
      · exact Or.inl hback
      · right
        rw [hsplit]
        exact before_append (by simp) hdone
    · exact h.along u hu v hv

/-- Steps that each attain something for a goal of their own attain it for all goals, since nothing
is forgotten from one step to the next. -/
theorem Sound.foldl {step : Search → String → Search} {Q : Search → String → Prop}
    (hmono : ∀ {s s' : Search} {n : String}, Extends s s' → Q s n → Q s' n) {goals : List String}
    (hstep : ∀ s, ∀ n ∈ goals, Sound nodes edges path s →
      Sound nodes edges path (step s n) ∧ Extends s (step s n) ∧ Q (step s n) n)
    (h : Sound nodes edges path s) :
    Sound nodes edges path (goals.foldl step s) ∧ Extends s (goals.foldl step s) ∧
      ∀ n ∈ goals, Q (goals.foldl step s) n := by
  induction goals generalizing s with
  | nil => exact ⟨h, Extends.refl s, by simp⟩
  | cons goal goals ih =>
    obtain ⟨hone, hext, hgoal⟩ := hstep s goal List.mem_cons_self h
    obtain ⟨hall, hext', hgoals⟩ :=
      ih (fun s n hn => hstep s n (List.mem_cons_of_mem goal hn)) hone
    refine ⟨hall, hext.trans hext', ?_⟩
    intro n hn
    rcases List.mem_cons.mp hn with rfl | hn
    · exact hmono hext' hgoal
    · exact hgoals n hn

end Search

open Search

variable {nodes : List String} {edges : List Edge}

/-- What a visit does with one child of its node. -/
def follow (edges : List Edge) (fuel : Nat) (path : List String) (node : String) (s : Search)
    (child : String) : Search :=
  if child == node || path.contains child then { s with back := (node, child) :: s.back }
  else if s.done.contains child then s
  else visit edges fuel (node :: path) child s

theorem visit_succ (edges : List Edge) (fuel : Nat) (path : List String) (node : String)
    (s : Search) :
    visit edges (fuel + 1) path node s =
      { (successors edges node).foldl (follow edges fuel path node) s with
        done := node :: ((successors edges node).foldl (follow edges fuel path node) s).done } :=
  rfl

/-- A visit with some fuel keeps the search sound and leaves its node done, wherever path and fuel
together are no shorter than the list of nodes. -/
def VisitSound (nodes : List String) (edges : List Edge) (fuel : Nat) : Prop :=
  ∀ (path : List String) (node : String) (s : Search), nodes.length ≤ path.length + fuel →
    Sound nodes edges (node :: path) s →
      Sound nodes edges path (visit edges fuel path node s) ∧
        Extends s (visit edges fuel path node s) ∧ node ∈ (visit edges fuel path node s).done

/-- What a visit does with a child keeps the search sound and settles the child. -/
theorem follow_sound (hedges : ∀ e ∈ edges, e.2 ∈ nodes) {fuel : Nat}
    (hvisit : VisitSound nodes edges fuel) {path : List String} {node child : String} {s : Search}
    (hfuel : nodes.length ≤ path.length + 1 + fuel) (hchild : child ∈ successors edges node)
    (h : Sound nodes edges (node :: path) s) :
    Sound nodes edges (node :: path) (follow edges fuel path node s child) ∧
      Extends s (follow edges fuel path node s child) ∧
        (follow edges fuel path node s child).Settles node child := by
  obtain ⟨hedge, hne⟩ := mem_successors.mp hchild
  have hself : (child == node) = false := by simpa using hne
  simp only [follow, hself, Bool.false_or, List.contains_iff_mem]
  split
  · next hpath =>
    exact ⟨h.turn hpath, ⟨List.Subset.refl _, List.subset_cons_self _ _⟩,
      Or.inl List.mem_cons_self⟩
  · next hpath =>
    split
    · next hdone => exact ⟨h, Extends.refl s, Or.inr hdone⟩
    · next hdone =>
      have hpush := h.push (hedges (node, child) hedge) (by simp [hne, hpath]) hdone
      obtain ⟨hsound, hext, hin⟩ :=
        hvisit (node :: path) child s (by rw [List.length_cons]; omega) hpush
      exact ⟨hsound, hext, Or.inr hin⟩

/-- A visit keeps the search sound and leaves its node done. Its fuel is enough, for no path is
longer than there are nodes. -/
theorem visit_sound (hedges : ∀ e ∈ edges, e.2 ∈ nodes) (fuel : Nat) :
    VisitSound nodes edges fuel := by
  -- The fuel and the path together are never shorter than the list of nodes, so that the fuel is
  -- not used up while a node is left.
  induction fuel with
  | zero =>
    intro path node s hfuel h
    have hle := h.length_le
    rw [List.length_cons] at hle
    omega
  | succ fuel ih =>
    intro path node s hfuel h
    obtain ⟨hsound, hext, hsettled⟩ :=
      Sound.foldl (Q := fun s child => s.Settles node child) (fun hext h => h.mono hext)
        (fun s child hchild h => follow_sound hedges ih (by omega) hchild h) h
    rw [visit_succ]
    refine ⟨hsound.finish hsettled, ⟨?_, hext.back⟩, List.mem_cons_self⟩
    exact fun n hn => List.mem_cons_of_mem node (hext.done hn)

/-- The search from a node, unless the node is done. -/
def searchFrom (nodes : List String) (edges : List Edge) (s : Search) (root : String) : Search :=
  if s.done.contains root then s else visit edges nodes.length [] root s

theorem searchFrom_sound (hedges : ∀ e ∈ edges, e.2 ∈ nodes) {s : Search} {root : String}
    (hroot : root ∈ nodes) (h : Sound nodes edges [] s) :
    Sound nodes edges [] (searchFrom nodes edges s root) ∧
      Extends s (searchFrom nodes edges s root) ∧ root ∈ (searchFrom nodes edges s root).done := by
  simp only [searchFrom, List.contains_iff_mem]
  split
  · next hdone => exact ⟨h, Extends.refl s, hdone⟩
  · next hdone =>
    exact visit_sound hedges nodes.length [] root s (by simp)
      (h.push hroot List.not_mem_nil hdone)

theorem sound_empty : Sound nodes edges [] {} := by
  constructor <;> simp [order]

/-- The whole search is sound, and every node is done. -/
theorem exists_search (hedges : ∀ e ∈ edges, e.2 ∈ nodes) :
    ∃ s : Search, s.back = backEdges nodes edges ∧ Sound nodes edges [] s ∧
      ∀ n ∈ nodes, n ∈ s.done := by
  obtain ⟨hsound, -, hdone⟩ :=
    Sound.foldl (Q := fun s n => n ∈ s.done) (fun hext h => hext.done h)
      (fun _ _ hroot h => searchFrom_sound hedges hroot h) sound_empty
  exact ⟨_, rfl, hsound, hdone⟩

/-- No edge between two nodes is lost. -/
theorem mem_acyclicEdges (nodes : List String) {u v : String} (h : (u, v) ∈ edges) (hne : u ≠ v) :
    (u, v) ∈ acyclicEdges nodes edges ∨ (v, u) ∈ acyclicEdges nodes edges := by
  have hmem : (if (backEdges nodes edges).contains (u, v) then (v, u) else (u, v)) ∈
      acyclicEdges nodes edges :=
    List.mem_map.mpr ⟨(u, v), List.mem_filter.mpr ⟨h, by simpa using hne⟩, rfl⟩
  split at hmem
  · exact Or.inr hmem
  · exact Or.inl hmem

/-- **Every edge leads up a rank.** Once the edges that lead back are turned round, there is a rank
of the nodes that is greater at the end of every edge than at its start. -/
theorem exists_rank (hedges : ∀ e ∈ edges, e.1 ∈ nodes ∧ e.2 ∈ nodes) :
    ∃ rank : String → Nat, ∀ e ∈ acyclicEdges nodes edges, rank e.1 < rank e.2 := by
  obtain ⟨s, hback, hsound, hdone⟩ := exists_search fun e he => (hedges e he).2
  refine ⟨fun n => (s.order []).idxOf n, ?_⟩
  intro e he
  simp only [acyclicEdges, List.mem_map, List.mem_filter, bne_iff_ne] at he
  obtain ⟨⟨u, v⟩, ⟨hmem, hne⟩, rfl⟩ := he
  have hv : v ∈ successors edges u := mem_successors.mpr ⟨hmem, Ne.symm hne⟩
  simp only [← hback, List.contains_iff_mem]
  split
  · next hturn => exact (hsound.against (u, v) hturn).idxOf_lt hsound.nodup
  · next hkeep =>
    rcases hsound.along u (hdone u (hedges (u, v) hmem).1) v hv with hturn | hbefore
    · exact absurd hturn hkeep
    · exact hbefore.idxOf_lt hsound.nodup

example : acyclicEdges ["A", "B"] [("A", "B"), ("B", "B"), ("B", "A")] =
    [("A", "B"), ("A", "B")] := by
  decide +kernel

end Formwork.Layered
