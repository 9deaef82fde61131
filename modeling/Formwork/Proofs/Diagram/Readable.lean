import Mathlib.Data.List.Perm.Subperm
import Mathlib.Data.Set.BooleanAlgebra
import Mathlib.Data.Set.Prod
import Mathlib.Order.CompletePartialOrder
import Mathlib.Order.Interval.Set.Basic
import Formwork.Proofs.Diagram.Edges
import Formwork.Proofs.Layered.Place

/-!
# Layouts are readable

The engine that places nodes in layers places every visible entity, whatever the relationships
between them are. Entities of one row stand beside each other, rows stand below each other, every
row is centred on the widest, and related entities stand in different rows.
-/
namespace Formwork.Diagram

open Layered

/-- The rectangle of a node, without its right and its lower side. -/
def Node.area (n : Node ℚ) : Set (ℚ × ℚ) :=
  Set.Ico n.x (n.x + n.width) ×ˢ Set.Ico n.y (n.y + n.height)

theorem disjoint_area_of_beside {gap : ℚ} (hgap : 0 ≤ gap) {a b : Node ℚ} (h : Beside gap a b) :
    Disjoint a.area b.area := by
  refine Set.disjoint_left.mpr fun point ha hb => ?_
  have hright : point.1 < a.x + a.width := ha.1.2
  have hleft : b.x ≤ point.1 := hb.1.1
  have hle : a.x + a.width + gap ≤ b.x := h
  linarith

theorem disjoint_area_of_above {gap : ℚ} (hgap : 0 ≤ gap) {a b : Node ℚ} (h : Above gap a b) :
    Disjoint a.area b.area := by
  refine Set.disjoint_left.mpr fun point ha hb => ?_
  have hbottom : point.2 < a.y + a.height := ha.2.2
  have htop : b.y ≤ point.2 := hb.2.1
  have hle : a.y + a.height + gap ≤ b.y := h
  linarith

/-- Every row of nodes is in the middle of the widest, which begins at the left end. -/
structure Centred (nodes : List (Node ℚ)) (widest : ℚ) : Prop where
  widest_spans : nodes ≠ [] → ∃ a ∈ nodes, Spans {b | b ∈ nodes ∧ b.y = a.y} 0 widest
  centred : ∀ a ∈ nodes, ∃ width ≤ widest,
    Spans {b | b ∈ nodes ∧ b.y = a.y} ((widest - width) / 2) ((widest + width) / 2)

/-- Nodes that can be told apart and read in rows. -/
structure Readable (p : Spacing ℚ) (nodes : List (Node ℚ)) : Prop where
  beside : ∀ a ∈ nodes, ∀ b ∈ nodes, a.id ≠ b.id → a.y = b.y →
    Beside p.node a b ∨ Beside p.node b a
  above : ∀ a ∈ nodes, ∀ b ∈ nodes, a.y ≠ b.y → Above p.layer a b ∨ Above p.layer b a
  disjoint : ∀ a ∈ nodes, ∀ b ∈ nodes, a.id ≠ b.id → Disjoint a.area b.area
  centred : ∃ widest, Centred nodes widest

/-- The order in which nodes are listed does not matter. -/
theorem Readable.congr {p : Spacing ℚ} {nodes nodes' : List (Node ℚ)} (h : Readable p nodes)
    (hperm : nodes'.Perm nodes) : Readable p nodes' := by
  have hmem : ∀ a, a ∈ nodes' ↔ a ∈ nodes := fun a => hperm.mem_iff
  obtain ⟨widest, hcentred⟩ := h.centred
  refine ⟨?_, ?_, ?_, widest, ?_, ?_⟩
  · exact fun a ha b hb => h.beside a ((hmem a).mp ha) b ((hmem b).mp hb)
  · exact fun a ha b hb => h.above a ((hmem a).mp ha) b ((hmem b).mp hb)
  · exact fun a ha b hb => h.disjoint a ((hmem a).mp ha) b ((hmem b).mp hb)
  · intro hne
    have hne' : nodes ≠ [] := fun hnil => hne (List.perm_nil.mp (hnil ▸ hperm))
    simpa only [hmem] using hcentred.widest_spans hne'
  · simpa only [hmem] using hcentred.centred

section Stacked

variable {p : Spacing ℚ} {size : String → Size ℚ} {widest : ℚ} {rows : List (List String)}
  {nodes : List (Node ℚ)}

/-- Nodes of one height are those of one row, where no node is flat. -/
theorem y_eq_iff (hlayer : 0 ≤ p.layer) (h : Stacked p size widest rows nodes)
    (hheight : ∀ a ∈ nodes, 0 < a.height) {a b : Node ℚ} (ha : a ∈ nodes) (hb : b ∈ nodes) :
    a.y = b.y ↔ layerOf rows a.id = layerOf rows b.id := by
  refine ⟨fun hy => ?_, h.level a ha b hb⟩
  rcases Nat.lt_trichotomy (layerOf rows a.id) (layerOf rows b.id) with hlt | heq | hgt
  · have hle : a.y + a.height + p.layer ≤ b.y := h.above a ha b hb hlt
    have hpos := hheight a ha
    linarith
  · exact heq
  · have hle : b.y + b.height + p.layer ≤ a.y := h.above b hb a ha hgt
    have hpos := hheight b hb
    linarith

theorem readable_of_stacked (hnode : 0 ≤ p.node) (hlayer : 0 ≤ p.layer)
    (h : Stacked p size widest rows nodes) (hheight : ∀ a ∈ nodes, 0 < a.height)
    (hle : ∀ row ∈ rows, rowWidth p size row ≤ widest)
    (hwidest : nodes ≠ [] → ∃ a ∈ nodes,
      Spans {b | b ∈ nodes ∧ layerOf rows b.id = layerOf rows a.id} 0 widest) :
    Readable p nodes := by
  have hbeside : ∀ a ∈ nodes, ∀ b ∈ nodes, a.id ≠ b.id → a.y = b.y →
      Beside p.node a b ∨ Beside p.node b a :=
    fun a ha b hb hne hy => h.beside a ha b hb ((y_eq_iff hlayer h hheight ha hb).mp hy) hne
  have habove : ∀ a ∈ nodes, ∀ b ∈ nodes, a.y ≠ b.y →
      Above p.layer a b ∨ Above p.layer b a := by
    intro a ha b hb hy
    rcases Nat.lt_trichotomy (layerOf rows a.id) (layerOf rows b.id) with hlt | heq | hgt
    · exact Or.inl (h.above a ha b hb hlt)
    · exact absurd (h.level a ha b hb heq) hy
    · exact Or.inr (h.above b hb a ha hgt)
  have hrow : ∀ a ∈ nodes, {b | b ∈ nodes ∧ b.y = a.y} =
      {b | b ∈ nodes ∧ layerOf rows b.id = layerOf rows a.id} := by
    intro a ha
    ext b
    exact and_congr_right fun hb => y_eq_iff hlayer h hheight hb ha
  refine ⟨hbeside, habove, ?_, widest, ?_, ?_⟩
  · intro a ha b hb hne
    by_cases hy : a.y = b.y
    · rcases hbeside a ha b hb hne hy with hab | hba
      · exact disjoint_area_of_beside hnode hab
      · exact (disjoint_area_of_beside hnode hba).symm
    · rcases habove a ha b hb hy with hab | hba
      · exact disjoint_area_of_above hlayer hab
      · exact (disjoint_area_of_above hlayer hba).symm
  · intro hne
    obtain ⟨a, ha, hspans⟩ := hwidest hne
    exact ⟨a, ha, by rwa [hrow a ha]⟩
  · intro a ha
    obtain ⟨row, hmem, -, hspans⟩ := h.centred a ha
    exact ⟨rowWidth p size row, hle row hmem, by rwa [hrow a ha]⟩

theorem height_pos_of_mem (hpos : ∀ n ∈ rows.flatten, 0 < (size n).height) {a : Node ℚ}
    (ha : a ∈ placedNodes p size rows) : 0 < a.height := by
  obtain ⟨hid, -, hsize⟩ := of_mem_placedNodes ha
  rw [hsize]
  exact hpos a.id hid

/-- Placed rows are readable, where no node is flat. -/
theorem readable_placedNodes (hnode : 0 ≤ p.node) (hlayer : 0 ≤ p.layer) (h : Placeable size rows)
    (hpos : ∀ n ∈ rows.flatten, 0 < (size n).height) : Readable p (placedNodes p size rows) := by
  refine readable_of_stacked hnode hlayer (stacked_placedNodes hnode hlayer h)
    (fun a ha => height_pos_of_mem hpos ha) (fun row hrow => rowWidth_le_widest hrow) fun hne => ?_
  refine exists_spans_widest hnode hlayer h ?_
  rintro rfl
  exact hne rfl

end Stacked

section Layout

variable {p : Spacing ℚ} {m : Measures ℚ} {d : Diagram}

/-- The size of a node is that of a visible entity. -/
theorem exists_entity_of_mem_sizes {id : String} {size : Size ℚ} (h : (id, size) ∈ d.sizes m) :
    ∃ e ∈ d.visible.entities, size = m.size e.fields.length := by
  obtain ⟨e, he, heq⟩ := List.mem_map.mp (mem_of_mem_lastValues h)
  exact ⟨e, he, (Prod.mk.inj heq).2.symm⟩

theorem sizeIn_of_mem {id : String} {size : Size ℚ} (h : (id, size) ∈ d.sizes m) :
    sizeIn (d.sizes m) id = size := by
  have hnd : ((d.sizes m).map (·.1)).Nodup := by
    rw [map_fst_sizes]
    exact nodup_distinct _
  rw [sizeIn, lookup_of_mem hnd h, Option.getD_some]

/-- The nodes of a layout are the placed nodes. -/
theorem nodeAt_mem_placedNodes {rows : List (List String)}
    (hperm : rows.flatten.Perm ((d.sizes m).map (·.1))) {id : String} {size : Size ℚ}
    (h : (id, size) ∈ d.sizes m) :
    nodeAt (place p (sizeIn (d.sizes m)) rows) id size ∈
      placedNodes p (sizeIn (d.sizes m)) rows := by
  have hkeys : (place p (sizeIn (d.sizes m)) rows).map (·.1) = rows.flatten := by
    rw [← map_id_placedNodes p (sizeIn (d.sizes m)), placedNodes, List.map_map]
    rfl
  have hid : id ∈ (place p (sizeIn (d.sizes m)) rows).map (·.1) := by
    rw [hkeys, hperm.mem_iff]
    exact List.mem_map_of_mem (f := (·.1)) h
  obtain ⟨⟨x, y⟩, hlookup⟩ := exists_lookup hid
  refine List.mem_map.mpr ⟨(id, x, y), mem_of_lookup_eq_some hlookup, ?_⟩
  rw [nodeAt, hlookup, Option.getD_some, nodeOf, sizeIn_of_mem h]

/-- The nodes of a layout, in the order of the entities. -/
def nodesOn (p : Spacing ℚ) (m : Measures ℚ) (d : Diagram) (rows : List (List String)) :
    List (Node ℚ) :=
  (d.sizes m).map (fun (id, size) => nodeAt (place p (sizeIn (d.sizes m)) rows) id size)

theorem map_id_nodesOn (rows : List (List String)) :
    (nodesOn p m d rows).map (·.id) = distinct (d.visible.entities.map (·.id)) := by
  rw [nodesOn, List.map_map, ← map_fst_sizes m d]
  rfl

theorem nodesOn_perm {rows : List (List String)}
    (hperm : rows.flatten.Perm ((d.sizes m).map (·.1))) :
    (nodesOn p m d rows).Perm (placedNodes p (sizeIn (d.sizes m)) rows) := by
  have hnd : (nodesOn p m d rows).Nodup := by
    refine List.Nodup.of_map (·.id) ?_
    rw [map_id_nodesOn]
    exact nodup_distinct _
  have hsub : nodesOn p m d rows ⊆ placedNodes p (sizeIn (d.sizes m)) rows := by
    intro a ha
    obtain ⟨⟨id, size⟩, hsize, rfl⟩ := List.mem_map.mp ha
    exact nodeAt_mem_placedNodes hperm hsize
  have hlength : (placedNodes p (sizeIn (d.sizes m)) rows).length =
      (nodesOn p m d rows).length := by
    have hplaced := congrArg List.length
      (map_id_placedNodes p (sizeIn (d.sizes m)) rows)
    rw [List.length_map, hperm.length_eq, List.length_map] at hplaced
    rw [hplaced, nodesOn, List.length_map]
  exact (List.subperm_of_subset hnd hsub).perm_of_length_le hlength.le

/-- Entities have the sizes that the measures give. -/
theorem placeable_of_layering (hwidth : 0 < m.width)
    (hheight : ∀ e ∈ d.visible.entities, 0 < (m.size e.fields.length).height)
    {edges : List Edge} {rows : List (List String)}
    (h : Layering ((d.sizes m).map (·.1)) edges rows) :
    Placeable (sizeIn (d.sizes m)) rows ∧
      ∀ n ∈ rows.flatten, 0 < (sizeIn (d.sizes m) n).height := by
  have hsize : ∀ n ∈ rows.flatten, ∃ e ∈ d.visible.entities,
      sizeIn (d.sizes m) n = m.size e.fields.length := by
    intro n hn
    obtain ⟨⟨id, size⟩, hmem, rfl⟩ := List.mem_map.mp (h.perm.mem_iff.mp hn)
    rw [sizeIn_of_mem hmem]
    exact exists_entity_of_mem_sizes hmem
  have hpos : ∀ n ∈ rows.flatten, 0 < (sizeIn (d.sizes m) n).height := by
    intro n hn
    obtain ⟨e, he, hsize⟩ := hsize n hn
    rw [hsize]
    exact hheight e he
  refine ⟨⟨?_, h.ne_nil, ?_, fun n hn => (hpos n hn).le⟩, hpos⟩
  · rw [h.perm.nodup_iff, map_fst_sizes]
    exact nodup_distinct _
  · intro n hn
    obtain ⟨e, -, hsize⟩ := hsize n hn
    rw [hsize]
    exact hwidth.le

/-- Every relationship has a node at both ends. -/
theorem exists_placedNodes {edges : List Edge} {rows : List (List String)}
    (h : Layering ((d.sizes m).map (·.1)) edges rows) {r : Relationship} (hr : r ∈ d.joined m) :
    ∃ a ∈ placedNodes p (sizeIn (d.sizes m)) rows, ∃ b ∈ placedNodes p (sizeIn (d.sizes m)) rows,
      a.id = r.source ∧ b.id = r.target := by
  obtain ⟨hsource, htarget⟩ :=
    mem_edges_joined (List.mem_map_of_mem (f := Relationship.edge) hr)
  rw [← h.perm.mem_iff, ← map_id_placedNodes p (sizeIn (d.sizes m))] at hsource htarget
  obtain ⟨a, ha, haid⟩ := List.mem_map.mp hsource
  obtain ⟨b, hb, hbid⟩ := List.mem_map.mp htarget
  exact ⟨a, ha, b, hb, haid, hbid⟩

/-- The ends of an edge between two nodes stand in different rows. -/
theorem exists_ends (hnode : 0 ≤ p.node) (hlayer : 0 ≤ p.layer) {rows : List (List String)}
    (hplaceable : Placeable (sizeIn (d.sizes m)) rows)
    (hpos : ∀ n ∈ rows.flatten, 0 < (sizeIn (d.sizes m) n).height)
    (h : Layering ((d.sizes m).map (·.1))
      (acyclicEdges ((d.sizes m).map (·.1)) ((d.joined m).map Relationship.edge)) rows)
    {r : Relationship} (hr : r ∈ d.joined m) (hne : r.source ≠ r.target) :
    ∃ a ∈ placedNodes p (sizeIn (d.sizes m)) rows, ∃ b ∈ placedNodes p (sizeIn (d.sizes m)) rows,
      a.id = r.source ∧ b.id = r.target ∧ a.y ≠ b.y := by
  have hedge : (r.source, r.target) ∈ (d.joined m).map Relationship.edge :=
    List.mem_map_of_mem (f := Relationship.edge) hr
  obtain ⟨hsource, htarget⟩ := mem_edges_joined hedge
  obtain ⟨a, ha, b, hb, haid, hbid⟩ := exists_placedNodes h hr
  refine ⟨a, ha, b, hb, haid, hbid, fun hy => ?_⟩
  have hsame := (y_eq_iff hlayer (stacked_placedNodes hnode hlayer hplaceable)
    (fun c hc => height_pos_of_mem hpos hc) ha hb).mp hy
  rw [haid, hbid] at hsame
  rcases mem_acyclicEdges ((d.sizes m).map (·.1)) hedge hne with hdown | hup
  · have hlt : layerOf rows r.source < layerOf rows r.target :=
      h.strict _ hdown hsource htarget
    omega
  · have hlt : layerOf rows r.target < layerOf rows r.source :=
      h.strict _ hup htarget hsource
    omega

/-- **Layouts in layers succeed and are readable.** Whatever the relationships are, and however
often the layers are swept, the engine places the graph. The layout has one node for every visible
id, in the order in which the ids first occur, with the size of its entity; its nodes are readable;
and every relationship between two different nodes leads from one row to another. -/
theorem layoutBy_layered_readable (p : Spacing ℚ) (count : Int) (m : Measures ℚ) (d : Diagram)
    (hnode : 0 ≤ p.node) (hlayer : 0 ≤ p.layer) (hwidth : 0 < m.width)
    (hheight : ∀ e ∈ d.visible.entities, 0 < (m.size e.fields.length).height) :
    ∃ places l,
      layeredEngine p count (d.sizes m) ((d.joined m).map Relationship.edge) = .ok places ∧
      layoutBy (layeredEngine p count) m d = .ok l ∧
      l.nodes.map (·.id) = distinct (d.visible.entities.map (·.id)) ∧
      l.nodes.map (fun n => (n.id, Size.mk n.width n.height)) = d.sizes m ∧
      Readable p l.nodes ∧
      l.edges = d.joined m ∧
      ∀ r ∈ l.edges, r.source ≠ r.target →
        ∃ a ∈ l.nodes, ∃ b ∈ l.nodes, a.id = r.source ∧ b.id = r.target ∧ a.y ≠ b.y := by
  obtain ⟨rows, hengine, hlayout, hlayering⟩ := exists_layoutBy_layered p count m d
  obtain ⟨hplaceable, hpos⟩ := placeable_of_layering hwidth hheight hlayering
  have hperm := nodesOn_perm (p := p) hlayering.perm
  have hreadable := (readable_placedNodes hnode hlayer hplaceable hpos).congr hperm
  refine ⟨_, _, hengine, hlayout, map_id_nodesOn rows, ?_, hreadable, (joined_eq m d).symm, ?_⟩
  · rw [layoutOn, List.map_map]
    exact List.map_id _
  · intro r hr hne
    obtain ⟨a, ha, b, hb, hends⟩ :=
      exists_ends hnode hlayer hplaceable hpos hlayering (joined_eq m d ▸ hr) hne
    exact ⟨a, hperm.mem_iff.mpr ha, b, hperm.mem_iff.mpr hb, hends⟩

/-- Two entities that refer to each other stand in different rows. -/
theorem layoutBy_layered_readable_cycle :
    let p : Spacing ℚ := ⟨1, 0⟩
    let m : Measures ℚ := ⟨3, 1, 1, 1 / 2⟩
    let d : Diagram :=
      { entities := [{ id := "A", kind := .header }, { id := "B" }, { id := "A" }]
        relationships := [{ id := "r", source := "A", target := "B" },
          { id := "s", source := "B", target := "A" },
          { id := "t", source := "B", target := "C" }] }
    (0 ≤ p.node ∧ 0 ≤ p.layer ∧ 0 < m.width ∧
      ∀ e ∈ d.visible.entities, 0 < (m.size e.fields.length).height) ∧
    ∃ l, layoutBy (layeredEngine p 3) m d = .ok l ∧ l.nodes.map (·.id) = ["A", "B"] ∧
      ∃ a ∈ l.nodes, ∃ b ∈ l.nodes, a.id = "A" ∧ b.id = "B" ∧ a.y ≠ b.y := by
  intro p m d
  have hheight : ∀ e ∈ d.visible.entities, 0 < (m.size e.fields.length).height := by
    decide +kernel
  have hsizes : 0 ≤ p.node ∧ 0 ≤ p.layer ∧ 0 < m.width := by decide +kernel
  obtain ⟨hnode, hlayer, hwidth⟩ := hsizes
  obtain ⟨places, l, -, hlayout, hids, -, -, hedges, hends⟩ :=
    layoutBy_layered_readable p 3 m d hnode hlayer hwidth hheight
  refine ⟨⟨hnode, hlayer, hwidth, hheight⟩, l, hlayout, ?_, ?_⟩
  · rw [hids]
    decide +kernel
  · refine hends { id := "r", source := "A", target := "B" } ?_ (by decide)
    rw [hedges]
    exact List.mem_of_getElem? (i := 0) rfl

end Layout

end Formwork.Diagram
