import Formwork.Diagram.Mermaid
import Formwork.Proofs.Diagram.Edges

/-!
# Diagrams as text

The Mermaid text of a diagram shows the edges of its layout. It leaves out those with an end that
has no table, and the entities without a table. What it draws between two tables it also describes:
both tables are those of visible entities, and each of them has its block in the text.
-/
namespace Formwork.Diagram

/-- The visible entities with a table, in order. -/
def tabled (d : Diagram) : List Entity :=
  d.visible.entities.filter (·.table != "")

/-- An entity with the id has a table. -/
def HasTable (d : Diagram) (id : String) : Prop :=
  ∃ e ∈ d.entities, e.id = id ∧ e.table ≠ ""

instance (d : Diagram) : DecidablePred d.HasTable :=
  fun _ => inferInstanceAs (Decidable (∃ e ∈ d.entities, _))

/-- The line leads between the tables of two visible entities, as the relationship does between
their ids. -/
def Draws (d : Diagram) (r : Relationship) (line : String) : Prop :=
  ∃ a ∈ d.tabled, ∃ b ∈ d.tabled, a.id = r.source ∧ b.id = r.target ∧
    line = relationshipLine a.table b.table r

/-- The lines and the blocks of which the text of a diagram is made. Every entity between which a
line is drawn is one of those that have a block. -/
structure IsTextOf (d : Diagram) (edges : List Relationship) (lines : List String)
    (blocks : List (List String)) : Prop where
  /-- The edges between tables are drawn, in order. -/
  drawn : List.Forall₂ d.Draws
    (edges.filter (fun r => d.HasTable r.source ∧ d.HasTable r.target)) lines
  described : blocks = d.tabled.map entityLines
  hidden : d.showExternal = false → ∀ e ∈ d.tabled, e.kind ≠ .external

variable {d : Diagram}

theorem mem_tabled {e : Entity} : e ∈ d.tabled ↔ e ∈ d.visible.entities ∧ e.table ≠ "" := by
  rw [tabled, List.mem_filter, bne_iff_ne]

theorem kind_ne_external_of_mem_visible (hhide : d.showExternal = false) {e : Entity}
    (h : e ∈ d.visible.entities) : e.kind ≠ .external := by
  have hshown := (List.mem_filter.mp h).2
  rwa [hhide, Bool.false_or, bne_iff_ne] at hshown

/-! ## Tables by id -/

theorem tableOf_of_mem (hids : (d.entities.map (·.id)).Nodup) {e : Entity} (he : e ∈ d.entities) :
    tableOf d e.id = e.table := by
  have hreverse : (d.entities.reverse.map (·.id)).Nodup := by
    rwa [List.map_reverse, List.nodup_reverse]
  rw [tableOf, find?_key_of_mem hreverse (List.mem_reverse.mpr he), Option.map_some,
    Option.getD_some]

theorem hasTable_of_mem (hids : (d.entities.map (·.id)).Nodup) {e : Entity} (he : e ∈ d.entities) :
    d.HasTable e.id ↔ e.table ≠ "" := by
  refine ⟨fun ⟨a, ha, haid, htable⟩ => ?_, fun htable => ⟨e, he, rfl, htable⟩⟩
  rwa [List.inj_on_of_nodup_map hids he ha haid.symm]

/-- The ends of a visible relationship, and the tables that the text looks up for them. -/
theorem exists_ends_of_mem_visible (hids : (d.entities.map (·.id)).Nodup) {r : Relationship}
    (hr : r ∈ d.visible.relationships) :
    ∃ a ∈ d.visible.entities, ∃ b ∈ d.visible.entities, a.id = r.source ∧ b.id = r.target ∧
      tableOf d r.source = a.table ∧ tableOf d r.target = b.table ∧
      (d.HasTable r.source ↔ a.table ≠ "") ∧ (d.HasTable r.target ↔ b.table ≠ "") := by
  obtain ⟨-, ⟨a, ha, hsource⟩, ⟨b, hb, htarget⟩⟩ := mem_visible_relationships.mp hr
  have ha' : a ∈ d.entities := mem_entities_of_mem_visible ha
  have hb' : b ∈ d.entities := mem_entities_of_mem_visible hb
  rw [← hsource, ← htarget]
  exact ⟨a, ha, b, hb, rfl, rfl, tableOf_of_mem hids ha', tableOf_of_mem hids hb',
    hasTable_of_mem hids ha', hasTable_of_mem hids hb'⟩

/-! ## Lines and blocks -/

/-- The lines for relationships. -/
def drawn (d : Diagram) : List String :=
  (d.visible.relationships.filter (fun r => d.HasTable r.source ∧ d.HasTable r.target)).map
    (fun r => relationshipLine (tableOf d r.source) (tableOf d r.target) r)

theorem mermaid_eq (hids : (d.entities.map (·.id)).Nodup) :
    mermaid d =
      String.intercalate "\n" ("erDiagram" :: d.drawn ++ (d.tabled.map entityLines).flatten) := by
  have hlines : d.visible.relationships.filterMap (fun r =>
      if tableOf d r.source == "" || tableOf d r.target == "" then none
      else some (relationshipLine (tableOf d r.source) (tableOf d r.target) r)) = d.drawn := by
    rw [drawn, ← List.filterMap_eq_map, List.filterMap_filter]
    refine List.filterMap_congr fun r hr => ?_
    obtain ⟨a, -, b, -, -, -, hsource, htarget, hsourceTable, htargetTable⟩ :=
      exists_ends_of_mem_visible hids hr
    by_cases ha : a.table = "" <;> by_cases hb : b.table = "" <;>
      simp [hsource, htarget, hsourceTable, htargetTable, ha, hb]
  rw [mermaid, ← List.flatMap_def]
  dsimp only
  rw [hlines, tabled]

theorem forall₂_draws (hids : (d.entities.map (·.id)).Nodup) :
    List.Forall₂ d.Draws
      (d.visible.relationships.filter (fun r => d.HasTable r.source ∧ d.HasTable r.target))
      d.drawn := by
  rw [drawn, List.forall₂_map_right_iff, List.forall₂_same]
  intro r hr
  rw [List.mem_filter, decide_eq_true_iff] at hr
  obtain ⟨hvisible, hsourceTable, htargetTable⟩ := hr
  obtain ⟨a, ha, b, hb, haid, hbid, hsource, htarget, hatable, hbtable⟩ :=
    exists_ends_of_mem_visible hids hvisible
  refine ⟨a, mem_tabled.mpr ⟨ha, hatable.mp hsourceTable⟩,
    b, mem_tabled.mpr ⟨hb, hbtable.mp htargetTable⟩, haid, hbid, ?_⟩
  rw [hsource, htarget]

/-- **The text shows the edges of the layout.** Where no two entities of a diagram share an id, its
text has a line for every edge of a layout whose ends both have a table, in order, and after them a
block for every visible entity with a table. A diagram always has a layout by the built-in
settings. -/
theorem mermaid_shows_layout (d : Diagram) (hids : (d.entities.map (·.id)).Nodup) :
    (∃ l, layout .builtin d = .ok l) ∧
    ∀ (s : Settings) (l : Layout Double), layout s d = .ok l →
      ∃ lines blocks, IsTextOf d l.edges lines blocks ∧
        mermaid d = String.intercalate "\n" ("erDiagram" :: lines ++ blocks.flatten) := by
  refine ⟨exists_layout_builtin d, fun s l hl => ⟨_, _, ⟨?_, rfl, ?_⟩, mermaid_eq hids⟩⟩
  · rw [(edges_of_layout hl).1]
    exact forall₂_draws hids
  · exact fun hhide e he => kind_ne_external_of_mem_visible hhide (mem_tabled.mp he).1

/-- An entity without a table and a hidden one leave only one line to be drawn. -/
theorem mermaid_shows_layout_hidden :
    let d : Diagram :=
      { entities := [{ id := "A", table := "TA", kind := .header }, { id := "B", table := "TB" },
          { id := "C" }, { id := "X", table := "TX", kind := .external }]
        relationships := [{ id := "r", source := "A", target := "C" },
          { id := "s", source := "A", target := "X", line := .dashed },
          { id := "t", source := "A", target := "B", label := "owns" }] }
    (d.entities.map (·.id)).Nodup ∧ d.showExternal = false ∧
      ∃ l lines, layout .builtin d = .ok l ∧
        List.Forall₂ d.Draws [{ id := "t", source := "A", target := "B", label := "owns" }] lines ∧
        mermaid d = String.intercalate "\n"
          ("erDiagram" :: lines ++ ["    TA \x7b", "    \x7d", "    TB \x7b", "    \x7d"]) := by
  intro d
  have hids : (d.entities.map (·.id)).Nodup := by decide
  obtain ⟨⟨l, hl⟩, hshows⟩ := mermaid_shows_layout d hids
  obtain ⟨lines, blocks, ⟨hdrawn, rfl, -⟩, htext⟩ := hshows .builtin l hl
  have hedges : l.edges.filter (fun r => d.HasTable r.source ∧ d.HasTable r.target) =
      [{ id := "t", source := "A", target := "B", label := "owns" }] := by
    rw [(edges_of_layout hl).1]
    rfl
  exact ⟨hids, rfl, l, lines, hl, hedges ▸ hdrawn, htext⟩

end Formwork.Diagram
