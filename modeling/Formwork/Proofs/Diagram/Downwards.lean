import Formwork.Proofs.Diagram.Derivation
import Formwork.Proofs.Diagram.Readable
import Formwork.Proofs.Layered.Walk

/-!
# Diagrams drawn downwards

In the diagram of a form, headers lead to details and blocks to external entities. So where no two
entities share an id, no path of relationships comes back to its start, no edge is turned round
before the layers are made, and every relationship is drawn downwards.
-/
namespace Formwork.Diagram

open Layered

/-- How deep the entities of a kind stand: headers above details, blocks above external entities. -/
def EntityKind.depth : EntityKind → Nat
  | .header => 0
  | .detail => 1
  | .external => 2

/-- A relationship leads from its source to an entity of a deeper kind. -/
def Descends (d : Diagram) (r : Relationship) : Prop :=
  ∀ a ∈ d.entities, ∀ b ∈ d.entities, a.id = r.source → b.id = r.target →
    a.kind.depth < b.kind.depth

/-- The depth of the first entity with an id. -/
def depthOf (d : Diagram) (id : String) : Nat :=
  ((d.find? id).map (·.kind.depth)).getD 0

section Acyclic

variable {d : Diagram}

theorem exists_find?_of_mem_visible {e : Entity} (h : e ∈ d.visible.entities) :
    ∃ a ∈ d.entities, a.id = e.id ∧ d.find? e.id = some a :=
  exists_find?_key (·.id) (mem_entities_of_mem_visible h)

theorem depthOf_lt {r : Relationship} (h : d.Descends r) (hanchored : d.visible.IsAnchored r) :
    d.depthOf r.source < d.depthOf r.target := by
  obtain ⟨⟨source, hsource, hsourceId⟩, ⟨target, htarget, htargetId⟩⟩ := hanchored
  obtain ⟨a, ha, haid, hfinda⟩ := exists_find?_of_mem_visible hsource
  obtain ⟨b, hb, hbid, hfindb⟩ := exists_find?_of_mem_visible htarget
  rw [hsourceId] at haid hfinda
  rw [htargetId] at hbid hfindb
  rw [depthOf, depthOf, hfinda, hfindb]
  exact h a ha b hb haid hbid

/-- Relationships that all descend close no cycle. -/
theorem acyclic_of_descends (h : ∀ r ∈ d.relationships, d.Descends r) :
    Acyclic (d.visible.relationships.map Relationship.edge) := by
  have hdown : ∀ e ∈ d.visible.relationships.map Relationship.edge,
      d.depthOf e.1 < d.depthOf e.2 := by
    intro e he
    obtain ⟨r, hr, rfl⟩ := List.mem_map.mp he
    obtain ⟨hmem, hanchored⟩ := mem_visible_relationships.mp hr
    exact depthOf_lt (h r hmem) hanchored
  exact acyclic_of_rank hdown

end Acyclic

/-! ## The layout of a diagram without cycles -/

section Layout

variable {p : Spacing ℚ} {m : Measures ℚ} {d : Diagram}

theorem find?_layoutOn {rows : List (List String)}
    (hperm : rows.flatten.Perm ((d.sizes m).map (·.1))) {a : Node ℚ}
    (ha : a ∈ placedNodes p (sizeIn (d.sizes m)) rows) :
    (layoutOn (place p (sizeIn (d.sizes m)) rows) m d).find? a.id = some a := by
  have hnd : ((nodesOn p m d rows).map (·.id)).Nodup := by
    rw [map_id_nodesOn]
    exact nodup_distinct _
  exact find?_key_of_mem hnd ((nodesOn_perm hperm).mem_iff.mpr ha)

/-- Relationships without cycles are drawn downwards. -/
theorem exists_layoutBy_downwards (p : Spacing ℚ) (count : Int) (m : Measures ℚ) (d : Diagram)
    (hnode : 0 ≤ p.node) (hlayer : 0 ≤ p.layer) (hwidth : 0 < m.width)
    (hheight : ∀ e ∈ d.visible.entities, 0 < (m.size e.fields.length).height)
    (hacyclic : Acyclic (d.visible.relationships.map Relationship.edge)) :
    ∃ l, layoutBy (layeredEngine p count) m d = .ok l ∧ l.edges = d.visible.relationships ∧
      ∀ r ∈ l.edges, ∃ a b, l.find? r.source = some a ∧ l.find? r.target = some b ∧
        Above p.layer a b := by
  obtain ⟨rows, -, hlayout, hlayering⟩ := exists_layoutBy_layered p count m d
  obtain ⟨hplaceable, -⟩ := placeable_of_layering hwidth hheight hlayering
  rw [acyclicEdges_eq_self (fun e he => (mem_edges_joined he).2) (joined_eq m d ▸ hacyclic)]
    at hlayering
  refine ⟨_, hlayout, rfl, fun r hr => ?_⟩
  have hjoined : r ∈ d.joined m := joined_eq m d ▸ hr
  obtain ⟨a, ha, b, hb, haid, hbid⟩ := exists_placedNodes hlayering hjoined
  have hedge : r.edge ∈ (d.joined m).map Relationship.edge := List.mem_map_of_mem hjoined
  obtain ⟨hsource, htarget⟩ := mem_edges_joined hedge
  have hlt : layerOf rows a.id < layerOf rows b.id := by
    rw [haid, hbid]
    exact hlayering.strict r.edge hedge hsource htarget
  refine ⟨a, b, haid ▸ find?_layoutOn hlayering.perm ha, hbid ▸ find?_layoutOn hlayering.perm hb,
    ?_⟩
  exact (stacked_placedNodes hnode hlayer hplaceable).above a ha b hb hlt

end Layout

/-! ## The diagram of a form -/

section Form

variable {s : Spec.FormSpec} {showExternal : Bool}

/-- The entity with the id of a block is that of the block. -/
theorem eq_ofBlock (hnames : (s.blocks.map (·.name)).Nodup)
    (hid : ∀ b ∈ s.blocks, ∀ e ∈ (ofSpec s showExternal).entities, e.kind = .external →
      b.name ≠ e.id)
    {b : Spec.Block} (hb : b ∈ s.blocks) {e : Entity} (he : e ∈ (ofSpec s showExternal).entities)
    (heq : e.id = b.name) : e = .ofBlock b := by
  rcases List.mem_append.mp he with hblock | hexternal
  · obtain ⟨b', hb', rfl⟩ := List.mem_map.mp hblock
    exact congrArg Entity.ofBlock (List.inj_on_of_nodup_map hnames hb' hb heq)
  · obtain ⟨l, -, rfl⟩ := List.mem_map.mp hexternal
    exact absurd heq.symm (hid b hb _ he rfl)

theorem depth_lt_external {kind : EntityKind} (h : kind ≠ .external) :
    kind.depth < EntityKind.external.depth := by
  cases kind with
  | header => decide
  | detail => decide
  | external => exact absurd rfl h

/-- Headers own details, and blocks look values up in external entities. -/
theorem descends_ofSpec (hnames : (s.blocks.map (·.name)).Nodup)
    (hid : ∀ b ∈ s.blocks, ∀ e ∈ (ofSpec s showExternal).entities, e.kind = .external →
      b.name ≠ e.id) :
    ∀ r ∈ (ofSpec s showExternal).relationships, (ofSpec s showExternal).Descends r := by
  intro r hr a ha b hb hsource htarget
  rw [relationships_eq, List.mem_append] at hr
  rcases hr with hsolid | hdashed
  · rw [withLine_solid] at hsolid
    obtain ⟨_, hheaders, _, hdetails, hheaderKind, hdetailKind, rfl⟩ := exists_ownership hsolid
    obtain ⟨header, hheader, rfl⟩ := List.mem_map.mp hheaders
    obtain ⟨detail, hdetail, rfl⟩ := List.mem_map.mp hdetails
    rw [eq_ofBlock hnames hid hheader ha hsource, eq_ofBlock hnames hid hdetail hb htarget,
      hheaderKind, hdetailKind]
    decide
  · obtain ⟨⟨block, hblock, hname⟩, external, hexternal, hkind, hexternalId⟩ :=
      exists_of_mem_dashed hdashed
    rw [eq_ofBlock hnames hid hblock ha (hsource.trans hname.symm)]
    -- The target is no block, for no block has the id of an external entity.
    rcases List.mem_append.mp hb with hinternal | hlookUp
    · obtain ⟨other, hother, rfl⟩ := List.mem_map.mp hinternal
      exact absurd (htarget.trans hexternalId.symm) (hid other hother external hexternal hkind)
    · obtain ⟨l, -, rfl⟩ := List.mem_map.mp hlookUp
      exact depth_lt_external (kindOf_ne_external block)

/-- **The diagram of a form is drawn downwards.** Where the blocks of a form have different names
and none has the id of an external entity, the layout of its diagram has every visible relationship
as an edge, and the node to which one leads stands below the node from which it leads, by the
distance between layers at least. -/
theorem layoutBy_ofSpec_downwards (p : Spacing ℚ) (count : Int) (m : Measures ℚ)
    (s : Spec.FormSpec) (showExternal : Bool) (hnode : 0 ≤ p.node) (hlayer : 0 ≤ p.layer)
    (hwidth : 0 < m.width)
    (hheight : ∀ e ∈ (ofSpec s showExternal).visible.entities,
      0 < (m.size e.fields.length).height)
    (hnames : (s.blocks.map (·.name)).Nodup)
    (hid : ∀ b ∈ s.blocks, ∀ e ∈ (ofSpec s showExternal).entities, e.kind = .external →
      b.name ≠ e.id) :
    ∃ l, layoutBy (layeredEngine p count) m (ofSpec s showExternal) = .ok l ∧
      l.edges = (ofSpec s showExternal).visible.relationships ∧
      ∀ r ∈ l.edges, ∃ a b, l.find? r.source = some a ∧ l.find? r.target = some b ∧
        Above p.layer a b :=
  exists_layoutBy_downwards p count m _ hnode hlayer hwidth hheight
    (acyclic_of_descends (descends_ofSpec hnames hid))

/-- A header, a detail below it, and below both the record group that they refer to. -/
theorem layoutBy_ofSpec_downwards_sharedGroup :
    let p : Spacing ℚ := ⟨1, 2⟩
    let m : Measures ℚ := ⟨3, 1, 1, 1 / 2⟩
    let d := ofSpec sharedGroup true
    (0 ≤ p.node ∧ 0 ≤ p.layer ∧ 0 < m.width ∧
      (∀ e ∈ d.visible.entities, 0 < (m.size e.fields.length).height) ∧
      (sharedGroup.blocks.map (·.name)).Nodup ∧
      ∀ b ∈ sharedGroup.blocks, ∀ e ∈ d.entities, e.kind = .external → b.name ≠ e.id) ∧
    ∃ l, layoutBy (layeredEngine p 3) m d = .ok l ∧
      l.edges.map (·.edge) = [("A", "B"), ("A", "ext-RG"), ("B", "ext-RG")] ∧
      ∃ a b, l.find? "B" = some a ∧ l.find? "ext-RG" = some b ∧ Above p.layer a b := by
  intro p m d
  have hheight : ∀ e ∈ d.visible.entities, 0 < (m.size e.fields.length).height := by
    decide +kernel
  have hsizes : 0 ≤ p.node ∧ 0 ≤ p.layer ∧ 0 < m.width := by decide +kernel
  obtain ⟨hnode, hlayer, hwidth⟩ := hsizes
  have hnames : (sharedGroup.blocks.map (·.name)).Nodup := by decide
  have hid : ∀ b ∈ sharedGroup.blocks, ∀ e ∈ d.entities, e.kind = .external → b.name ≠ e.id := by
    decide
  obtain ⟨l, hlayout, hedges, hdown⟩ :=
    layoutBy_ofSpec_downwards p 3 m sharedGroup true hnode hlayer hwidth hheight hnames hid
  have hvisible : d.visible.relationships.map (·.edge) =
      [("A", "B"), ("A", "ext-RG"), ("B", "ext-RG")] := by decide
  refine ⟨⟨hnode, hlayer, hwidth, hheight, hnames, hid⟩, l, hlayout, hedges ▸ hvisible, ?_⟩
  have hlookUp : ("B", "ext-RG") ∈ d.visible.relationships.map (·.edge) := by
    rw [hvisible]
    decide
  obtain ⟨r, hr, hends⟩ := List.mem_map.mp hlookUp
  obtain ⟨hsource, htarget⟩ := Prod.mk.inj hends
  rw [← hsource, ← htarget]
  exact hdown r (hedges ▸ hr)

end Form

end Formwork.Diagram
