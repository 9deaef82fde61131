import Mathlib.Data.List.Count
import Mathlib.Logic.Function.Basic
import Formwork.Proofs.Layered.LongestPath

/-!
# Layers by a queue

The layers can be found node by node (Kahn's algorithm): a loop takes the nodes from a queue, and a
node begins to wait there when the last edge to it is counted. Whatever the turns were, layers are
lengths of paths and grow along the edges that are counted (`Queue.Sound`), so that a node to which
no edge is left has the length of its longest path. At the end of the loop these are all the nodes
but those behind a cycle.
-/
namespace Formwork.Layered

open Relation (ReflTransGen)

/-- Where the loop stands. -/
structure Queue where
  /-- The nodes that can be taken, in the order in which they are. -/
  waiting : List String
  /-- The nodes that are taken, the last one first. -/
  taken : List String
  layer : String → Nat
  /-- The number of edges to a node that are not counted yet. -/
  incoming : String → Int

variable {nodes : List String} {edges : List Edge}

/-- The nodes to which the edges of a node lead. -/
def targets (edges : List Edge) (node : String) : List String :=
  (edges.filter (fun e => e.1 == node)).map (·.2)

namespace Queue

def start (nodes : List String) (edges : List Edge) : Queue where
  waiting := nodes.filter (fun n => edges.countP (fun e => e.2 == n) == 0)
  taken := []
  layer := fun _ => 0
  incoming := fun n => edges.countP (fun e => e.2 == n)

/-- Count an edge from a node that is taken. -/
def count (node : String) (q : Queue) (target : String) : Queue where
  waiting := if q.incoming target - 1 = 0 then q.waiting ++ [target] else q.waiting
  taken := q.taken
  layer := Function.update q.layer target (max (q.layer target) (q.layer node + 1))
  incoming := Function.update q.incoming target (q.incoming target - 1)

/-- Take a node and count its edges. -/
def take (edges : List Edge) (node : String) (rest : List String) (q : Queue) : Queue :=
  (targets edges node).foldl (count node) { q with waiting := rest, taken := node :: q.taken }

/-- One turn of the loop, none once no node is waiting. -/
def step? (edges : List Edge) (q : Queue) : Option Queue :=
  match q.waiting with
  | [] => none
  | node :: rest => some (q.take edges node rest)

/-- What the loop answers at its end. -/
def result (nodes : List String) (q : Queue) : Except Error (String → Nat) :=
  if q.taken.length = nodes.length then .ok q.layer
  else .error (.cyclic (nodes.filter (fun n => 0 < q.incoming n)))

/-! ## Counting the edges of a node -/

theorem mem_targets {node n : String} : n ∈ targets edges node ↔ (node, n) ∈ edges := by
  simp [targets]

/-- The edges from a node are those that are counted when the node is taken. -/
theorem count_targets (edges : List Edge) {node : String} {taken : List String}
    (hnode : node ∉ taken) (n : String) :
    (targets edges node).count n +
        edges.countP (fun e => e.2 == n && !(node :: taken).contains e.1) =
      edges.countP (fun e => e.2 == n && !taken.contains e.1) := by
  induction edges with
  | nil => rfl
  | cons e edges ih =>
    simp only [targets, List.filter_cons, List.countP_cons] at ih ⊢
    by_cases hsource : e.1 = node
    · by_cases htarget : e.2 = n <;> simp [hsource, htarget, hnode] at ih ⊢ <;> omega
    · have hne : (e.1 == node) = false := by simpa using hsource
      simp only [hne, List.contains_cons, Bool.false_or, Bool.false_eq_true, if_false] at ih ⊢
      omega

section Count

variable {node : String} {q : Queue}

@[simp] theorem taken_foldl_count (ts : List String) :
    (ts.foldl (count node) q).taken = q.taken := by
  induction ts generalizing q with
  | nil => rfl
  | cons t ts ih => exact ih

theorem incoming_foldl_count (ts : List String) (n : String) :
    (ts.foldl (count node) q).incoming n = q.incoming n - ts.count n := by
  induction ts generalizing q with
  | nil => simp
  | cons t ts ih =>
    rw [List.foldl_cons, ih, count, List.count_cons]
    by_cases h : t = n
    · subst h
      simp
      omega
    · simp [h, Function.update_of_ne (Ne.symm h)]

/-- The layers of the targets are below that of the node, and the others keep theirs. -/
theorem layer_foldl_count {ts : List String} (hnode : node ∉ ts) (n : String) :
    (ts.foldl (count node) q).layer n =
      if n ∈ ts then max (q.layer n) (q.layer node + 1) else q.layer n := by
  induction ts generalizing q with
  | nil => simp
  | cons t ts ih =>
    obtain ⟨hne, hts⟩ := not_or.mp (List.mem_cons.not.mp hnode)
    have hkept : (count node q t).layer node = q.layer node := Function.update_of_ne hne _ _
    rw [List.foldl_cons, ih hts, hkept]
    by_cases h : n = t
    · subst h
      simp [count]
    · simp [count, h]

/-- A node begins to wait when the last edge to it is counted. -/
theorem exists_waiting_foldl_count (node : String) (ts : List String) (q : Queue) :
    ∃ added : List String, (ts.foldl (count node) q).waiting = q.waiting ++ added ∧ added.Nodup ∧
      ∀ n, n ∈ added ↔ 1 ≤ q.incoming n ∧ q.incoming n ≤ ts.count n := by
  induction ts generalizing q with
  | nil =>
    refine ⟨[], by simp, List.nodup_nil, fun n => ?_⟩
    rw [List.count_nil]
    exact ⟨fun h => absurd h List.not_mem_nil, fun h => by omega⟩
  | cons t ts ih =>
    obtain ⟨added, hwaiting, hnd, hadded⟩ := ih (count node q t)
    have hself : (count node q t).incoming t = q.incoming t - 1 := Function.update_self _ _ _
    have hother (n : String) (h : n ≠ t) : (count node q t).incoming n = q.incoming n :=
      Function.update_of_ne h _ _
    by_cases hlast : q.incoming t - 1 = 0
    · have hnot : t ∉ added := fun h => by
        have hcounts := (hadded t).mp h
        omega
      refine ⟨t :: added, ?_, List.nodup_cons.mpr ⟨hnot, hnd⟩, fun n => ?_⟩
      · rw [List.foldl_cons, hwaiting]
        simp [count, hlast]
      · rw [List.mem_cons, hadded n, List.count_cons]
        by_cases h : n = t
        · subst h
          simp only [true_or, beq_self_eq_true, if_true, true_iff]
          omega
        · simp [h, Ne.symm h, hother n h]
    · refine ⟨added, ?_, hnd, fun n => ?_⟩
      · rw [List.foldl_cons, hwaiting]
        simp [count, hlast]
      · rw [hadded n, List.count_cons]
        by_cases h : n = t
        · subst h
          rw [hself]
          simp only [beq_self_eq_true, if_true]
          omega
        · simp [Ne.symm h, hother n h]

end Count

/-! ## What the loop keeps -/

/-- The edges from the nodes that are taken are counted. A layer is the length of a path, and the
edges that are counted lead to deeper layers. -/
structure Sound (nodes : List String) (edges : List Edge) (q : Queue) : Prop where
  nodup : (q.waiting ++ q.taken).Nodup
  incoming : ∀ n, q.incoming n = edges.countP (fun e => e.2 == n && !q.taken.contains e.1)
  mem : ∀ n, n ∈ q.waiting ++ q.taken ↔ n ∈ nodes ∧ q.incoming n = 0
  path : ∀ n, EndsPath edges (q.layer n) n
  deeper : ∀ e ∈ edges, e.1 ∈ q.taken → q.layer e.1 + 1 ≤ q.layer e.2

theorem sound_start (hnodes : nodes.Nodup) (edges : List Edge) :
    (start nodes edges).Sound nodes edges where
  nodup := by simpa [start] using hnodes.filter _
  incoming n := by simp [start]
  mem n := by simp [start]
  path n := .start n
  deeper := by simp [start]

/-- The sources of the edges to a node without an open edge are taken. -/
theorem Sound.mem_taken {q : Queue} (h : q.Sound nodes edges) {e : Edge} (he : e ∈ edges)
    (hzero : q.incoming e.2 = 0) : e.1 ∈ q.taken := by
  have hnone := h.incoming e.2
  rw [hzero, eq_comm, Int.natCast_eq_zero, List.countP_eq_zero] at hnone
  simpa using hnone e he

section Take

variable {q : Queue} {node : String} {rest : List String}

theorem taken_take (q : Queue) : (q.take edges node rest).taken = node :: q.taken :=
  taken_foldl_count _

/-- No edge leads from a waiting node to one that waits or is taken. -/
theorem Sound.notMem_targets (h : q.Sound nodes edges) (hwaiting : q.waiting = node :: rest)
    {n : String} (hn : n ∈ q.waiting ++ q.taken) : n ∉ targets edges node := by
  intro htarget
  have htaken : node ∈ q.taken :=
    h.mem_taken (e := (node, n)) (mem_targets.mp htarget) ((h.mem n).mp hn).2
  have hnd := h.nodup
  rw [hwaiting] at hnd
  exact (List.nodup_cons.mp hnd).1 (List.mem_append_right rest htaken)

theorem Sound.incoming_take (h : q.Sound nodes edges) (hwaiting : q.waiting = node :: rest)
    (n : String) : (q.take edges node rest).incoming n =
      edges.countP (fun e => e.2 == n && !(node :: q.taken).contains e.1) := by
  have hnd := h.nodup
  rw [hwaiting] at hnd
  have hfree : node ∉ q.taken := fun hmem =>
    (List.nodup_cons.mp hnd).1 (List.mem_append_right rest hmem)
  have hcount := count_targets edges hfree n
  rw [take, incoming_foldl_count]
  change q.incoming n - _ = _
  rw [h.incoming n]
  omega

theorem Sound.layer_take (h : q.Sound nodes edges) (hwaiting : q.waiting = node :: rest)
    (n : String) : (q.take edges node rest).layer n =
      if n ∈ targets edges node then max (q.layer n) (q.layer node + 1) else q.layer n :=
  layer_foldl_count (h.notMem_targets hwaiting (by simp [hwaiting])) n

/-- The targets that begin to wait are those without an edge that is left. -/
theorem Sound.exists_waiting_take (h : q.Sound nodes edges) (hwaiting : q.waiting = node :: rest) :
    ∃ added : List String, (q.take edges node rest).waiting = rest ++ added ∧ added.Nodup ∧
      ∀ n, n ∈ added ↔ n ∈ targets edges node ∧ (q.take edges node rest).incoming n = 0 := by
  obtain ⟨added, hadd, hnd, hadded⟩ := exists_waiting_foldl_count node (targets edges node)
    { q with waiting := rest, taken := node :: q.taken }
  refine ⟨added, hadd, hnd, fun n => ?_⟩
  have hleft := h.incoming_take hwaiting n
  rw [take, incoming_foldl_count] at hleft ⊢
  rw [hadded, ← List.count_pos_iff]
  simp only at hleft ⊢
  omega

/-- Taking a waiting node keeps what the loop keeps. -/
theorem Sound.take (hedges : ∀ e ∈ edges, e.2 ∈ nodes) (h : q.Sound nodes edges)
    (hwaiting : q.waiting = node :: rest) : (q.take edges node rest).Sound nodes edges := by
  obtain ⟨added, hadd, haddednd, hadded⟩ := h.exists_waiting_take hwaiting
  have hperm : ((q.take edges node rest).waiting ++ (q.take edges node rest).taken).Perm
      (added ++ (q.waiting ++ q.taken)) := by
    refine List.perm_iff_count.mpr fun n => ?_
    simp only [hadd, taken_take, hwaiting, List.count_append, List.count_cons]
    omega
  refine ⟨?_, ?_, ?_, ?_, ?_⟩
  · rw [hperm.nodup_iff]
    refine haddednd.append h.nodup fun n hn hold => ?_
    exact h.notMem_targets hwaiting hold ((hadded n).mp hn).1
  · intro n
    rw [taken_take]
    exact h.incoming_take hwaiting n
  · intro n
    rw [hperm.mem_iff, List.mem_append, hadded, h.mem]
    by_cases htarget : n ∈ targets edges node
    · have hn : n ∈ nodes := hedges (node, n) (mem_targets.mp htarget)
      have hopen : q.incoming n ≠ 0 := fun hzero =>
        h.notMem_targets hwaiting ((h.mem n).mpr ⟨hn, hzero⟩) htarget
      simp [htarget, hn, hopen]
    · have hkept : (q.take edges node rest).incoming n = q.incoming n := by
        rw [Queue.take, incoming_foldl_count, List.count_eq_zero_of_not_mem htarget]
        exact Int.sub_zero _
      simp [htarget, hkept]
  · intro n
    rw [h.layer_take hwaiting]
    split
    · next htarget =>
      rcases max_choice (q.layer n) (q.layer node + 1) with hmax | hmax
      · rw [hmax]
        exact h.path n
      · rw [hmax]
        exact .step (h.path node) (mem_targets.mp htarget)
    · exact h.path n
  · intro e he hsource
    rw [taken_take] at hsource
    have hkept : e.1 ∉ targets edges node := by
      refine h.notMem_targets hwaiting (List.mem_append.mpr ?_)
      exact (List.mem_cons.mp hsource).imp (fun heq => by simp [hwaiting, heq]) id
    rw [h.layer_take hwaiting, h.layer_take hwaiting, if_neg hkept]
    rcases List.mem_cons.mp hsource with heq | hsource
    · have htarget : e.2 ∈ targets edges node := mem_targets.mpr (heq ▸ he)
      rw [if_pos htarget, heq]
      exact le_max_right _ _
    · have hdeeper := h.deeper e he hsource
      split <;> omega

end Take

/-! ## The end of the loop -/

/-- The turns of the loop lead from one place to another. -/
abbrev Runs (edges : List Edge) : Queue → Queue → Prop :=
  ReflTransGen (fun q q' => q.step? edges = some q')

section End

variable {q : Queue}

theorem Sound.length_taken_le (h : q.Sound nodes edges) : q.taken.length ≤ nodes.length := by
  have hnd : q.taken.Nodup := (List.nodup_append.mp h.nodup).2.1
  refine (List.subperm_of_subset hnd fun n hn => ?_).length_le
  exact ((h.mem n).mp (List.mem_append_right q.waiting hn)).1

/-- The loop comes to an end, since every turn takes a node. -/
theorem Sound.exists_end (hedges : ∀ e ∈ edges, e.2 ∈ nodes) (h : q.Sound nodes edges) :
    ∃ stop, Runs edges q stop ∧ stop.waiting = [] ∧ stop.Sound nodes edges := by
  induction hleft : nodes.length - q.taken.length using Nat.strong_induction_on generalizing q with
  | _ left ih =>
    cases hwaiting : q.waiting with
    | nil => exact ⟨q, .refl, hwaiting, h⟩
    | cons node rest =>
      have htake := h.take hedges hwaiting
      have hlength := htake.length_taken_le
      rw [taken_take, List.length_cons] at hlength
      obtain ⟨stop, hruns, hstop⟩ := ih (nodes.length - (q.taken.length + 1)) (by omega) htake
        (by rw [taken_take, List.length_cons])
      refine ⟨stop, .head ?_ hruns, hstop⟩
      simp only [step?, hwaiting]

/-- A node to which no edge is left has the length of its longest path. -/
theorem Sound.isGreatest_layer (h : q.Sound nodes edges) {n : String} (hzero : q.incoming n = 0) :
    IsGreatest { k | EndsPath edges k n } (q.layer n) := by
  refine ⟨h.path n, fun k hk => ?_⟩
  induction k generalizing n with
  | zero => exact Nat.zero_le _
  | succ k ih =>
    cases hk with
    | @step _ u _ hpath hedge =>
      have htaken : u ∈ q.taken := h.mem_taken hedge hzero
      have hsource := ih ((h.mem u).mp (List.mem_append_right q.waiting htaken)).2 hpath
      have hdeeper := h.deeper (u, n) hedge htaken
      exact (Nat.succ_le_succ hsource).trans hdeeper

/-- At the end the nodes to which an edge is left are those behind a cycle. -/
theorem Sound.behindCycle_iff (hedges : ∀ e ∈ edges, e.1 ∈ nodes) (h : q.Sound nodes edges)
    (hend : q.waiting = []) {n : String} (hn : n ∈ nodes) :
    BehindCycle edges n ↔ q.incoming n ≠ 0 := by
  constructor
  · intro hbehind hzero
    have hbound := (h.isGreatest_layer hzero).2 (hbehind.endsPath (q.layer n + 1))
    omega
  · intro hleft
    have hsource : ∀ m ∈ nodes.filter (fun m => q.incoming m ≠ 0),
        ∃ u ∈ nodes.filter (fun m => q.incoming m ≠ 0), (u, m) ∈ edges := by
      intro m hm
      have hcount : edges.countP (fun e => e.2 == m && !q.taken.contains e.1) ≠ 0 := by
        have hopen := (List.mem_filter.mp hm).2
        rw [decide_eq_true_eq, h.incoming m] at hopen
        omega
      obtain ⟨e, he, hopen⟩ := List.countP_pos_iff.mp (Nat.pos_of_ne_zero hcount)
      obtain ⟨rfl, hsource⟩ : e.2 = m ∧ e.1 ∉ q.taken := by simpa using hopen
      refine ⟨e.1, List.mem_filter.mpr ⟨hedges e he, decide_eq_true fun hzero => hsource ?_⟩, he⟩
      simpa [hend] using (h.mem e.1).mpr ⟨hedges e he, hzero⟩
    exact behindCycle_of_forall_exists hsource n (List.mem_filter.mpr ⟨hn, decide_eq_true hleft⟩)

/-- At the end the nodes that are not taken are those behind a cycle. -/
theorem Sound.length_taken_eq_iff (hnodes : nodes.Nodup) (hedges : ∀ e ∈ edges, e.1 ∈ nodes)
    (h : q.Sound nodes edges) (hend : q.waiting = []) :
    q.taken.length = nodes.length ↔ ∀ n ∈ nodes, ¬ BehindCycle edges n := by
  have hperm : q.taken.Perm (nodes.filter (fun n => q.incoming n = 0)) := by
    refine (List.perm_ext_iff_of_nodup ?_ (hnodes.filter _)).mpr fun n => ?_
    · exact (List.nodup_append.mp h.nodup).2.1
    · have hmem := h.mem n
      rw [hend, List.nil_append] at hmem
      simp [hmem]
  rw [hperm.length_eq, List.length_filter_eq_length_iff]
  refine forall₂_congr fun n hn => ?_
  rw [h.behindCycle_iff hedges hend hn, not_not, decide_eq_true_eq]

open scoped Classical in
theorem Sound.result_eq (hnodes : nodes.Nodup) (hedges : ∀ e ∈ edges, e.1 ∈ nodes ∧ e.2 ∈ nodes)
    (h : q.Sound nodes edges) (hend : q.waiting = []) :
    q.result nodes =
      if Acyclic edges then .ok q.layer
      else .error (.cyclic (nodes.filter (fun n => BehindCycle edges n))) := by
  have hsources : ∀ e ∈ edges, e.1 ∈ nodes := fun e he => (hedges e he).1
  have hstuck : nodes.filter (fun n => 0 < q.incoming n) =
      nodes.filter (fun n => BehindCycle edges n) := by
    refine List.filter_congr fun n hn => decide_eq_decide.mpr ?_
    rw [h.behindCycle_iff hsources hend hn, h.incoming n]
    omega
  rw [result, hstuck]
  simp only [h.length_taken_eq_iff hnodes hsources hend,
    acyclic_iff fun e he => (hedges e he).2]

end End

/-- **The loop over the queue ends.** Every run goes on to one end, where the loop answers what the
rows say. -/
theorem exists_answer (hnodes : nodes.Nodup) (hedges : ∀ e ∈ edges, e.1 ∈ nodes ∧ e.2 ∈ nodes) :
    ∃ stop : Queue, stop.step? edges = none ∧
      (∀ q, Runs edges (start nodes edges) q → Runs edges q stop) ∧
      (∀ e, stop.result nodes = .error e ↔ layers nodes edges = .error e) ∧
      ∀ rows, layers nodes edges = .ok rows →
        stop.result nodes = .ok stop.layer ∧ ∀ n ∈ nodes, stop.layer n = layerOf rows n := by
  have hsources : ∀ e ∈ edges, e.1 ∈ nodes := fun e he => (hedges e he).1
  have htargets : ∀ e ∈ edges, e.2 ∈ nodes := fun e he => (hedges e he).2
  obtain ⟨stop, hruns, hend, hsound⟩ := (sound_start hnodes edges).exists_end htargets
  have hnone : stop.step? edges = none := by simp only [step?, hend]
  refine ⟨stop, hnone, fun q hq => ?_, ?_⟩
  · refine runs_to_end (fun _ _ _ hb hc => Option.some.inj (hb.symm.trans hc)) ?_ hruns hq
    intro q' hturn
    rw [hnone] at hturn
    cases hturn
  · rw [hsound.result_eq hnodes hedges hend, layers_eq hedges]
    by_cases hacyclic : Acyclic edges
    · rw [if_pos hacyclic, if_pos hacyclic]
      refine ⟨by simp, ?_⟩
      rintro rows ⟨⟩
      refine ⟨rfl, fun n hn => ?_⟩
      have hfree := (acyclic_iff htargets).mp hacyclic n hn
      have hzero : stop.incoming n = 0 := by
        simpa [hfree] using hsound.behindCycle_iff hsources hend hn
      exact (hsound.isGreatest_layer hzero).unique
        ((peel_byLongestPath hedges hacyclic).longest n hn)
    · simp [hacyclic]

end Queue

/-! ## The layers of a graph -/

open scoped Classical in
/-- **Layers are longest paths, and fail at cycles only.** The loop over the queue ends for every
graph and answers what the rows say. The layers of a graph fail exactly where a path comes back to
its beginning, and the failure names the nodes behind the cycles, in order. Otherwise every node has
the layer of its longest path, so that edges lead to deeper layers and no layer above the deepest is
empty. -/
theorem layers_longestPath (hnodes : nodes.Nodup)
    (hedges : ∀ e ∈ edges, e.1 ∈ nodes ∧ e.2 ∈ nodes) :
    (∃ stop : Queue, stop.step? edges = none ∧
      (∀ q, Queue.Runs edges (.start nodes edges) q → Queue.Runs edges q stop) ∧
      (∀ e, stop.result nodes = .error e ↔ layers nodes edges = .error e) ∧
      ∀ rows, layers nodes edges = .ok rows →
        stop.result nodes = .ok stop.layer ∧ ∀ n ∈ nodes, stop.layer n = layerOf rows n) ∧
    ((∃ e, layers nodes edges = .error e) ↔ ∃ n, Relation.TransGen (Leads edges) n n) ∧
    (∀ e, layers nodes edges = .error e →
      e = .cyclic (nodes.filter (fun n => BehindCycle edges n))) ∧
    ∀ rows, layers nodes edges = .ok rows → ByLongestPath nodes edges rows := by
  refine ⟨Queue.exists_answer hnodes hedges, ?_⟩
  rw [layers_eq hedges]
  by_cases hacyclic : Acyclic edges
  · have hnone : ¬ ∃ n, Relation.TransGen (Leads edges) n n := not_exists.mpr hacyclic
    rw [if_pos hacyclic]
    refine ⟨by simp [hnone], by simp, ?_⟩
    rintro rows ⟨⟩
    exact peel_byLongestPath hedges hacyclic
  · have hcycle : ∃ n, Relation.TransGen (Leads edges) n n := not_forall_not.mp hacyclic
    rw [if_neg hacyclic]
    refine ⟨by simp [hcycle], ?_, by simp⟩
    rintro e ⟨⟩
    rfl

/-- A node with a loop and the node behind it have no layer. -/
theorem layers_longestPath_loop :
    let nodes := ["A", "B", "C", "D"]
    let edges := [("A", "B"), ("B", "B"), ("B", "C"), ("A", "D")]
    nodes.Nodup ∧ (∀ e ∈ edges, e.1 ∈ nodes ∧ e.2 ∈ nodes) ∧
      layers nodes edges = .error (.cyclic ["B", "C"]) ∧
      (∃ n, Relation.TransGen (Leads edges) n n) ∧
      ∀ n ∈ nodes, n ∈ ["B", "C"] ↔ BehindCycle edges n := by
  intro nodes edges
  have hnodes : nodes.Nodup := by decide
  have hedges : ∀ e ∈ edges, e.1 ∈ nodes ∧ e.2 ∈ nodes := by decide
  have herror : layers nodes edges = .error (.cyclic ["B", "C"]) := by cbv
  obtain ⟨-, hfails, hnames, -⟩ := layers_longestPath hnodes hedges
  have hstuck := Error.cyclic.inj (hnames _ herror)
  refine ⟨hnodes, hedges, herror, hfails.mp ⟨_, herror⟩, fun n hn => ?_⟩
  rw [hstuck]
  simp [hn]

end Formwork.Layered
