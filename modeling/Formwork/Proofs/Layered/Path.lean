import Mathlib.Data.Set.Finite.List
import Mathlib.Logic.Relation
import Formwork.Proofs.Layered.Search

/-!
# Paths and cycles

A graph is given by its edges, and a path is a chain of them. What lies on a cycle or behind one is
the end of paths of every length. Conversely, in a finite set in which every node has an edge from
another, every node lies behind a cycle: going back along edges meets a node twice.
-/
namespace Formwork.Layered

open Relation (TransGen ReflTransGen)

/-- An edge leads from one node to another. -/
def Leads (edges : List Edge) (u v : String) : Prop :=
  (u, v) ∈ edges

/-- No path comes back to the node where it began. -/
def Acyclic (edges : List Edge) : Prop :=
  ∀ n, ¬ TransGen (Leads edges) n n

/-- The node lies on a cycle, or on a path that begins on one. -/
def BehindCycle (edges : List Edge) (n : String) : Prop :=
  ∃ m, TransGen (Leads edges) m m ∧ ReflTransGen (Leads edges) m n

/-- A path of a number of edges ends at the node. -/
inductive EndsPath (edges : List Edge) : Nat → String → Prop
  | start (n : String) : EndsPath edges 0 n
  | step {k : Nat} {u v : String} : EndsPath edges k u → (u, v) ∈ edges → EndsPath edges (k + 1) v

variable {edges : List Edge} {n : String}

/-- Edges that all lead up a rank close no cycle. -/
theorem acyclic_of_rank {rank : String → Nat} (hrank : ∀ e ∈ edges, rank e.1 < rank e.2) :
    Acyclic edges := by
  have hup : ∀ u v, TransGen (Leads edges) u v → rank u < rank v := by
    intro u v h
    induction h with
    | single hlast => exact hrank _ hlast
    | tail _ hlast ih => exact ih.trans (hrank _ hlast)
  exact fun n h => (hup n n h).false

/-- On a cycle there is always an edge to a node. -/
theorem mem_of_transGen_self {nodes : List String} (hedges : ∀ e ∈ edges, e.2 ∈ nodes)
    (h : TransGen (Leads edges) n n) : n ∈ nodes := by
  obtain ⟨u, -, hlast⟩ := TransGen.tail'_iff.mp h
  exact hedges (u, n) hlast

theorem behindCycle_of_transGen_self (h : TransGen (Leads edges) n n) : BehindCycle edges n :=
  ⟨n, h, .refl⟩

theorem BehindCycle.of_leads {m : String} (h : BehindCycle edges m) (hedge : (m, n) ∈ edges) :
    BehindCycle edges n := by
  obtain ⟨c, hcycle, hpath⟩ := h
  exact ⟨c, hcycle, hpath.tail hedge⟩

/-- What lies behind a cycle has an edge from a node that does. -/
theorem BehindCycle.exists_leads (h : BehindCycle edges n) :
    ∃ u, BehindCycle edges u ∧ (u, n) ∈ edges := by
  obtain ⟨m, hcycle, hpath⟩ := h
  -- Where the path has no edge, its end is the node on the cycle, and the cycle brings the edge.
  rcases ReflTransGen.cases_tail hpath with rfl | ⟨u, hfirst, hlast⟩
  · obtain ⟨u, hfirst, hlast⟩ := TransGen.tail'_iff.mp hcycle
    exact ⟨u, ⟨n, hcycle, hfirst⟩, hlast⟩
  · exact ⟨u, ⟨m, hcycle, hfirst⟩, hlast⟩

/-- Paths of every length end behind a cycle. -/
theorem BehindCycle.endsPath (h : BehindCycle edges n) (k : Nat) : EndsPath edges k n := by
  induction k generalizing n with
  | zero => exact .start n
  | succ k ih =>
    obtain ⟨u, hu, hedge⟩ := h.exists_leads
    exact .step (ih hu) hedge

/-- Without its first edge a path still ends at the same node. -/
theorem EndsPath.pred {k : Nat} (h : EndsPath edges (k + 1) n) : EndsPath edges k n := by
  induction k generalizing n with
  | zero => exact .start n
  | succ k ih =>
    cases h with
    | step hpath hedge => exact .step (ih hpath) hedge

theorem EndsPath.mono {j k : Nat} (h : EndsPath edges k n) (hle : j ≤ k) : EndsPath edges j n := by
  induction hle with
  | refl => exact h
  | step _ ih => exact ih h.pred

/-- Where every node has an edge from another, every node lies behind a cycle. -/
theorem behindCycle_of_forall_exists {nodes : List String}
    (h : ∀ n ∈ nodes, ∃ u ∈ nodes, (u, n) ∈ edges) : ∀ n ∈ nodes, BehindCycle edges n := by
  -- Paths between nodes that lie behind no cycle are an order of finitely many nodes, so that going
  -- back along them would come to an end.
  let Free := { n // n ∈ nodes ∧ ¬ BehindCycle edges n }
  have hfinite : Finite Free :=
    (nodes.finite_toSet.subset fun n (hn : n ∈ nodes ∧ ¬ BehindCycle edges n) => hn.1).to_subtype
  have htrans : IsTrans Free (fun a b => TransGen (Leads edges) a.1 b.1) :=
    ⟨fun _ _ _ hab hbc => hab.trans hbc⟩
  have hirrefl : Std.Irrefl (fun a b : Free => TransGen (Leads edges) a.1 b.1) :=
    ⟨fun a hcycle => a.2.2 (behindCycle_of_transGen_self hcycle)⟩
  have hwf := Finite.wellFounded_of_trans_of_irrefl
    (fun a b : Free => TransGen (Leads edges) a.1 b.1)
  intro n hn
  by_contra hnot
  refine hwf.induction (C := fun _ => False) ⟨n, hn, hnot⟩ fun x ih => ?_
  obtain ⟨u, hu, hedge⟩ := h x.1 x.2.1
  exact ih ⟨u, hu, fun hbehind => x.2.2 (hbehind.of_leads hedge)⟩ (.single hedge)

/-- Without a cycle no node lies behind one. -/
theorem acyclic_iff {nodes : List String} (hedges : ∀ e ∈ edges, e.2 ∈ nodes) :
    Acyclic edges ↔ ∀ n ∈ nodes, ¬ BehindCycle edges n := by
  constructor
  · rintro hacyclic n - ⟨m, hcycle, -⟩
    exact hacyclic m hcycle
  · intro hfree n hcycle
    exact hfree n (mem_of_transGen_self hedges hcycle) (behindCycle_of_transGen_self hcycle)

/-! ## Runs of a loop -/

/-- Where one run comes to an end, every run from the same place goes on to that end. -/
theorem runs_to_end {σ : Type} {turn : σ → σ → Prop} (hunique : Relator.RightUnique turn)
    {s stop t : σ} (hend : ∀ t, ¬ turn stop t) (hstop : ReflTransGen turn s stop)
    (h : ReflTransGen turn s t) : ReflTransGen turn t stop := by
  rcases ReflTransGen.total_of_right_unique hunique h hstop with hon | hback
  · exact hon
  · rcases ReflTransGen.cases_head hback with rfl | ⟨_, hfirst, -⟩
    · exact .refl
    · exact absurd hfirst (hend _)

end Formwork.Layered
