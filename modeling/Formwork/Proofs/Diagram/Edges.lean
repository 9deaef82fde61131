import Formwork.Diagram.Layout
import Formwork.Proofs.Classes
import Formwork.Proofs.Layered.Layers

/-!
# The edges of layouts

A layout has a node for every visible entity, and the visible relationships are those with a visible
entity at both ends. So all of them are edges of the layout, and none is left that it could report
as skipped: a relationship with a missing end is lost without a trace.
-/
namespace Formwork.Diagram

open Layered

/-- The ends of a relationship are entities of the diagram. -/
def IsAnchored (d : Diagram) (r : Relationship) : Prop :=
  (∃ e ∈ d.entities, e.id = r.source) ∧ ∃ e ∈ d.entities, e.id = r.target

instance (d : Diagram) : DecidablePred d.IsAnchored :=
  fun _ => inferInstanceAs (Decidable (_ ∧ _))

/-- Every relationship of the diagram is an edge of the layout, or is reported as skipped where an
end of it is missing. -/
structure AccountsFor {κ : Type} (d : Diagram) (l : Layout κ) : Prop where
  edges : l.edges = d.relationships.filter (fun r => d.IsAnchored r)
  skipped : l.skipped = (d.relationships.filter (fun r => ¬ d.IsAnchored r)).map (·.id)

variable {d : Diagram}

theorem mem_entities_of_mem_visible {e : Entity} (h : e ∈ d.visible.entities) : e ∈ d.entities :=
  (List.mem_filter.mp h).1

theorem visible_relationships (d : Diagram) :
    d.visible.relationships = d.relationships.filter (fun r => d.visible.IsAnchored r) := by
  show d.relationships.filter (fun r =>
    d.visible.entities.any (·.id == r.source) && d.visible.entities.any (·.id == r.target)) = _
  refine List.filter_congr fun r _ => ?_
  rw [Bool.eq_iff_iff, decide_eq_true_iff]
  simp [IsAnchored]

theorem mem_visible_relationships {r : Relationship} :
    r ∈ d.visible.relationships ↔ r ∈ d.relationships ∧ d.visible.IsAnchored r := by
  rw [visible_relationships, List.mem_filter, decide_eq_true_iff]

/-- Where external entities are shown, all entities are visible. -/
theorem isAnchored_visible (hshow : d.showExternal = true) (r : Relationship) :
    d.visible.IsAnchored r ↔ d.IsAnchored r := by
  simp [visible, IsAnchored, hshow]

section Coordinates

variable {κ : Type} [Coordinate κ] {m : Measures κ}

theorem map_fst_sizes (m : Measures κ) (d : Diagram) :
    (d.sizes m).map (·.1) = distinct (d.visible.entities.map (·.id)) := by
  rw [sizes, map_fst_lastValues, List.map_map]
  rfl

theorem isJoined_iff {r : Relationship} :
    isJoined (d.sizes m) r = true ↔ d.visible.IsAnchored r := by
  have hnode : ∀ id, (d.sizes m).any (·.1 == id) = true ↔ ∃ e ∈ d.visible.entities, e.id = id := by
    intro id
    have hmem : (∃ p ∈ d.sizes m, p.1 = id) ↔ id ∈ (d.sizes m).map (·.1) := List.mem_map.symm
    simp only [List.any_eq_true, beq_iff_eq]
    rw [hmem, map_fst_sizes, mem_distinct, List.mem_map]
  rw [isJoined, Bool.and_eq_true, hnode, hnode, IsAnchored]

theorem isJoined_of_mem_visible {r : Relationship} (h : r ∈ d.visible.relationships) :
    isJoined (d.sizes m) r = true :=
  isJoined_iff.mpr (mem_visible_relationships.mp h).2

/-- Every visible relationship has a node at both ends. -/
theorem joined_eq (m : Measures κ) (d : Diagram) : d.joined m = d.visible.relationships :=
  List.filter_eq_self.mpr fun _ hr => isJoined_of_mem_visible hr

theorem mem_edges_joined {e : Edge} (he : e ∈ (d.joined m).map Relationship.edge) :
    e.1 ∈ (d.sizes m).map (·.1) ∧ e.2 ∈ (d.sizes m).map (·.1) := by
  obtain ⟨r, hr, rfl⟩ := List.mem_map.mp he
  obtain ⟨hsource, htarget⟩ := isJoined_iff.mp (List.mem_filter.mp hr).2
  rw [map_fst_sizes, mem_distinct, mem_distinct]
  exact ⟨List.mem_map.mpr hsource, List.mem_map.mpr htarget⟩

/-- The layout of places by id. -/
def layoutOn (places : List (String × κ × κ)) (m : Measures κ) (d : Diagram) : Layout κ where
  nodes := (d.sizes m).map (fun (id, size) => nodeAt places id size)
  edges := d.visible.relationships
  skipped := []

theorem layoutBy_of_placesOf {engine : Engine κ} {places : List (String × κ × κ)}
    (h : placesOf engine (d.sizes m) ((d.joined m).map Relationship.edge) = .ok places) :
    layoutBy engine m d = .ok (layoutOn places m d) := by
  have hskipped : d.visible.relationships.filter (fun r => !isJoined (d.sizes m) r) = [] := by
    refine List.filter_eq_nil_iff.mpr fun r hr => ?_
    simp [isJoined_of_mem_visible (m := m) hr]
  rw [layoutBy, h, joined_eq, hskipped]
  rfl

theorem edges_of_layoutBy {engine : Engine κ} {l : Layout κ} (h : layoutBy engine m d = .ok l) :
    l.edges = d.visible.relationships ∧ l.skipped = [] := by
  cases hplaces : placesOf engine (d.sizes m) ((d.joined m).map Relationship.edge) with
  | error e =>
    rw [layoutBy, hplaces] at h
    cases h
  | ok places =>
    rw [layoutBy_of_placesOf hplaces] at h
    obtain rfl := Except.ok.inj h
    exact ⟨rfl, rfl⟩

/-- The engine that places nodes in layers places every diagram. -/
theorem exists_layoutBy_layered (p : Spacing κ) (count : Int) (m : Measures κ) (d : Diagram) :
    ∃ rows, layeredEngine p count (d.sizes m) ((d.joined m).map Relationship.edge) =
        .ok (place p (sizeIn (d.sizes m)) rows) ∧
      layoutBy (layeredEngine p count) m d =
        .ok (layoutOn (place p (sizeIn (d.sizes m)) rows) m d) ∧
      Layering ((d.sizes m).map (·.1)) (acyclicEdges ((d.sizes m).map (·.1))
        ((d.joined m).map Relationship.edge)) rows := by
  obtain ⟨rows, hok, hlayering⟩ := exists_layering p count (sizeIn (d.sizes m))
    (fun e he => mem_edges_joined (m := m) (d := d) he)
  have hengine : layeredEngine p count (d.sizes m) ((d.joined m).map Relationship.edge) =
      .ok (place p (sizeIn (d.sizes m)) rows) := hok
  refine ⟨rows, hengine, layoutBy_of_placesOf ?_, hlayering⟩
  rw [placesOf, hengine]

end Coordinates

/-! ## Layouts by settings -/

/-- Without entities there are no relationships to show. -/
theorem visible_relationships_of_isEmpty (h : d.visible.entities.isEmpty = true) :
    d.visible.relationships = [] := by
  rw [visible_relationships, List.filter_eq_nil_iff]
  simp [IsAnchored, List.isEmpty_iff.mp h]

theorem edges_of_layout {s : Settings} {l : Layout Double} (h : layout s d = .ok l) :
    l.edges = d.visible.relationships ∧ l.skipped = [] := by
  rw [layout] at h
  cases hcount : (s.setting "layout" "sweeps").integer with
  | error e =>
    rw [hcount] at h
    cases h
  | ok count =>
    rw [hcount] at h
    by_cases hempty : d.visible.entities.isEmpty = true
    · simp only [Bind.bind, Except.bind, layoutWith, hempty, if_true, Except.ok.injEq] at h
      rw [visible_relationships_of_isEmpty hempty, ← h]
      exact ⟨rfl, rfl⟩
    · simp only [Bind.bind, Except.bind, hempty, Bool.false_eq_true, if_false] at h
      split at h
      · cases h
      · split at h
        · cases h
        · split at h
          · cases h
          · exact edges_of_layoutBy h

/-- Every diagram has a layout by the built-in settings. -/
theorem exists_layout_builtin (d : Diagram) : ∃ l, layout .builtin d = .ok l := by
  have hcount : (Settings.builtin.setting "layout" "sweeps").integer = .ok 4 := rfl
  by_cases hempty : d.visible.entities.isEmpty = true
  · refine ⟨{ nodes := [], edges := [], skipped := [] }, ?_⟩
    simp only [layout, hcount, Bind.bind, Except.bind, layoutWith, hempty, if_true]
  · obtain ⟨m, hmeasures⟩ : ∃ m, Measures.read .builtin = .ok m := ⟨_, rfl⟩
    obtain ⟨node, hnode⟩ : ∃ x, number .builtin "node_spacing" = .ok x := ⟨_, rfl⟩
    obtain ⟨layer, hlayer⟩ : ∃ x, number .builtin "layer_spacing" = .ok x := ⟨_, rfl⟩
    obtain ⟨rows, -, hlayout, -⟩ := exists_layoutBy_layered ⟨node, layer⟩ 4 m d
    refine ⟨_, Eq.trans ?_ hlayout⟩
    simp only [layout, hcount, hmeasures, hnode, hlayer, Bind.bind, Except.bind, hempty,
      Bool.false_eq_true, if_false]

/-- **Layouts keep the relationships between their entities and report no others.** Every diagram
has a layout by the built-in settings. The edges of a layout are the relationships between visible
entities, in order, and none is reported as skipped. So where all entities are shown, the layout
accounts for every relationship exactly if none has a missing end. -/
theorem layout_edges (d : Diagram) :
    (∃ l, layout .builtin d = .ok l) ∧
    ∀ (s : Settings) (l : Layout Double), layout s d = .ok l →
      l.edges = d.relationships.filter (fun r => d.visible.IsAnchored r) ∧ l.skipped = [] ∧
      (d.showExternal = true →
        l.edges = d.relationships.filter (fun r => d.IsAnchored r) ∧
        (AccountsFor d l ↔ ∀ r ∈ d.relationships, d.IsAnchored r)) := by
  refine ⟨exists_layout_builtin d, fun s l h => ?_⟩
  obtain ⟨hedges, hskipped⟩ := edges_of_layout h
  rw [visible_relationships] at hedges
  refine ⟨hedges, hskipped, fun hshow => ?_⟩
  simp only [isAnchored_visible hshow] at hedges
  refine ⟨hedges, fun hall r hr => ?_, fun hall => ⟨hedges, ?_⟩⟩
  · have hnone := hall.skipped
    rw [hskipped, eq_comm, List.map_eq_nil_iff, List.filter_eq_nil_iff] at hnone
    simpa using hnone r hr
  · rw [hskipped, eq_comm, List.map_eq_nil_iff, List.filter_eq_nil_iff]
    exact fun r hr => by simpa using hall r hr

/-- Ids that occur twice, a loop, and relationships without a source or without a target. -/
theorem layout_edges_dangling :
    let d : Diagram :=
      { entities := [{ id := "A", kind := .external }, { id := "B" }, { id := "A" }]
        relationships := [{ id := "r", source := "A", target := "B" },
          { id := "s", source := "C", target := "A" }, { id := "t", source := "B", target := "B" },
          { id := "r", source := "B", target := "C" }]
        showExternal := true }
    ∃ l, layout .builtin d = .ok l ∧ d.showExternal = true ∧
      l.edges.map (·.edge) = [("A", "B"), ("B", "B")] ∧ l.skipped = [] := by
  intro d
  obtain ⟨⟨l, hl⟩, hedges⟩ := layout_edges d
  obtain ⟨-, hskipped, hshown⟩ := hedges .builtin l hl
  refine ⟨l, hl, rfl, ?_, hskipped⟩
  rw [(hshown rfl).1]
  decide +kernel

/-- A relationship to an entity that does not exist is neither an edge nor reported. -/
theorem not_accountsFor_dangling :
    let d : Diagram :=
      { entities := [{ id := "A" }]
        relationships := [{ id := "dangling", source := "A", target := "GONE" }]
        showExternal := true }
    ∃ l, layout .builtin d = .ok l ∧ l.edges = [] ∧ l.skipped = [] ∧ ¬ AccountsFor d l := by
  intro d
  obtain ⟨l, hl⟩ := exists_layout_builtin d
  obtain ⟨hedges, hskipped⟩ := edges_of_layout hl
  refine ⟨l, hl, hedges.trans (by decide +kernel), hskipped, fun hall => ?_⟩
  have hreported := hall.skipped
  rw [hskipped] at hreported
  exact absurd hreported (by decide +kernel)

end Formwork.Diagram
