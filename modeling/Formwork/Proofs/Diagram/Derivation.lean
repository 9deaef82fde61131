import Mathlib.Data.List.Basic
import Formwork.Diagram.Derive
import Formwork.Proofs.Classes
import Formwork.Proofs.Diagram.Query

/-!
# The diagram of a form

A field refers to a record group through the last list of values of the name that it gives. The
external entities of a diagram are the record groups that fields refer to, and its dashed
relationships are the pairs of a block and such a group, both by the first fields that refer to
them. All other entities are blocks, and all other relationships lead from the first header to the
details.
-/
namespace Formwork.Diagram

/-- No list of values behind this one has its name. -/
def IsLastLov (s : Spec.FormSpec) (lov : Spec.Lov) : Prop :=
  ∃ before after, s.lovs = before ++ lov :: after ∧ ∀ l ∈ after, l.name ≠ lov.name

/-- A look-up by the field that it is made for: the positions of the block among the blocks and of
the field among its fields. -/
structure Reference where
  block : Nat
  field : Nat
  lookUp : LookUp

namespace Reference

def Before (r r' : Reference) : Prop :=
  r.block < r'.block ∨ r.block = r'.block ∧ r.field < r'.field

/-- A field of a form refers to a record group. -/
def IsIn (s : Spec.FormSpec) (r : Reference) : Prop :=
  ∃ b f, s.blocks[r.block]? = some b ∧ b.fields[r.field]? = some f ∧ r.lookUp.block = b.name ∧
    f.lovName ≠ "" ∧ r.lookUp.lov.name = f.lovName ∧ IsLastLov s r.lookUp.lov ∧
    r.lookUp.lov.recordGroup ≠ ""

theorem Before.asymm {r r' : Reference} (h : r.Before r') : ¬ r'.Before r := by
  unfold Before at *
  omega

end Reference

/-- The references of a form that no other reference with their key comes before, in order. -/
structure FirstReferences {κ : Type} (s : Spec.FormSpec) (key : LookUp → κ)
    (refs : List Reference) : Prop where
  mem_iff : ∀ r, r ∈ refs ↔ r.IsIn s ∧
    ∀ r' : Reference, r'.IsIn s → key r'.lookUp = key r.lookUp → ¬ r'.Before r
  ordered : refs.Pairwise Reference.Before
  nodup : (refs.map (fun r => key r.lookUp)).Nodup
  covers : ∀ r : Reference, r.IsIn s → ∃ r' ∈ refs, key r'.lookUp = key r.lookUp

/-! ## Look-ups in order -/

variable {s : Spec.FormSpec}

theorem lovNamed_eq_some {name : String} {lov : Spec.Lov} :
    lovNamed s name = some lov ↔ lov.name = name ∧ IsLastLov s lov := by
  rw [lovNamed, List.find?_eq_some_iff_append]
  constructor
  · rintro ⟨hname, after, before, hsplit, hafter⟩
    obtain rfl := beq_iff_eq.mp hname
    refine ⟨rfl, before.reverse, after.reverse, ?_, fun l hl => ?_⟩
    · have hreverse := congrArg List.reverse hsplit
      simpa using hreverse
    · simpa using hafter l (List.mem_reverse.mp hl)
  · rintro ⟨rfl, before, after, hsplit, hafter⟩
    refine ⟨beq_self_eq_true _, after.reverse, before.reverse, by simp [hsplit], fun l hl => ?_⟩
    simpa using hafter l (List.mem_reverse.mp hl)

def lookUpOf (s : Spec.FormSpec) (b : Spec.Block) (f : Spec.Field) : Option LookUp :=
  if f.lovName == "" then none
  else
    match lovNamed s f.lovName with
    | some lov => if lov.recordGroup == "" then none else some ⟨b.name, lov⟩
    | none => none

theorem lookUpOf_eq_some {b : Spec.Block} {f : Spec.Field} {l : LookUp} :
    lookUpOf s b f = some l ↔ l.block = b.name ∧ f.lovName ≠ "" ∧ l.lov.name = f.lovName ∧
      IsLastLov s l.lov ∧ l.lov.recordGroup ≠ "" := by
  rw [lookUpOf]
  by_cases hname : f.lovName = ""
  · simp [hname]
  · rw [if_neg (by simpa using hname)]
    constructor
    · intro h
      split at h
      · next lov hlov =>
        obtain ⟨hlovName, hlast⟩ := lovNamed_eq_some.mp hlov
        split at h
        · cases h
        · next hgroup =>
          obtain rfl := Option.some.inj h
          exact ⟨rfl, hname, hlovName, hlast, by simpa using hgroup⟩
      · cases h
    · rintro ⟨hblock, -, hlovName, hlast, hgroup⟩
      rw [lovNamed_eq_some.mpr ⟨hlovName, hlast⟩]
      dsimp only
      rw [if_neg (by simpa using hgroup), ← hblock]

/-- The references of a form, block by block and field by field. -/
def references (s : Spec.FormSpec) : List Reference :=
  s.blocks.zipIdx.flatMap (fun b =>
    b.1.fields.zipIdx.filterMap (fun f => (lookUpOf s b.1 f.1).map (fun l => ⟨b.2, f.2, l⟩)))

theorem map_lookUp_references (s : Spec.FormSpec) :
    (references s).map (·.lookUp) = lookUps s := by
  have hfields : ∀ b : Spec.Block × Nat,
      (b.1.fields.zipIdx.filterMap (fun f =>
        (lookUpOf s b.1 f.1).map (fun l => (⟨b.2, f.2, l⟩ : Reference)))).map (·.lookUp) =
      b.1.fields.filterMap (lookUpOf s b.1) := by
    intro b
    conv_rhs => rw [← List.zipIdx_map_fst 0 b.1.fields, List.filterMap_map]
    rw [List.map_filterMap]
    refine congrArg (List.filterMap · _) (funext fun f => ?_)
    rw [Option.map_map, Function.comp_apply]
    exact Option.map_id'
  have hblocks : lookUps s = s.blocks.flatMap (fun b => b.fields.filterMap (lookUpOf s b)) := rfl
  rw [hblocks, references, List.map_flatMap]
  simp only [hfields]
  conv_rhs => rw [← List.zipIdx_map_fst 0 s.blocks, List.flatMap_map]

theorem mem_references {r : Reference} : r ∈ references s ↔ r.IsIn s := by
  simp only [references, List.mem_flatMap, List.mem_filterMap, Option.map_eq_some_iff,
    lookUpOf_eq_some, Prod.exists, List.mem_zipIdx_iff_getElem?, Reference.IsIn]
  constructor
  · rintro ⟨b, i, hb, f, j, hf, l, hl, rfl⟩
    exact ⟨b, f, hb, hf, hl⟩
  · rintro ⟨b, f, hb, hf, hl⟩
    exact ⟨b, r.block, hb, f, r.field, hf, r.lookUp, hl, rfl⟩

theorem pairwise_references (s : Spec.FormSpec) : (references s).Pairwise Reference.Before := by
  rw [references, List.pairwise_flatMap]
  constructor
  · intro b _
    rw [List.pairwise_filterMap]
    refine (pairwise_zipIdx _).imp fun hlt r hr r' hr' => ?_
    obtain ⟨l, -, rfl⟩ := Option.map_eq_some_iff.mp hr
    obtain ⟨l', -, rfl⟩ := Option.map_eq_some_iff.mp hr'
    exact Or.inr ⟨rfl, hlt⟩
  · refine (pairwise_zipIdx _).imp fun hlt r hr r' hr' => ?_
    obtain ⟨f, -, hr⟩ := List.mem_filterMap.mp hr
    obtain ⟨l, -, rfl⟩ := Option.map_eq_some_iff.mp hr
    obtain ⟨f', -, hr'⟩ := List.mem_filterMap.mp hr'
    obtain ⟨l', -, rfl⟩ := Option.map_eq_some_iff.mp hr'
    exact Or.inl hlt

/-- The first look-ups for a key are those of the first references. -/
theorem exists_firstReferences {κ : Type} [BEq κ] [LawfulBEq κ] (s : Spec.FormSpec)
    (key : LookUp → κ) : ∃ refs, FirstReferences s key refs ∧
      firsts key (lookUps s) = refs.map (·.lookUp) := by
  have hkeys := map_firsts (fun r : Reference => key r.lookUp) (references s)
  refine ⟨firsts (fun r => key r.lookUp) (references s), ⟨fun r => ?_, ?_, ?_, ?_⟩, ?_⟩
  · rw [mem_firsts (fun _ _ => Reference.Before.asymm) (pairwise_references s)]
    simp only [mem_references]
  · exact (pairwise_references s).sublist (firsts_sublist _ _)
  · rw [hkeys]
    exact nodup_distinct _
  · intro r hr
    have hmem : key r.lookUp ∈ (references s).map (fun r => key r.lookUp) :=
      List.mem_map_of_mem (mem_references.mpr hr)
    rw [← mem_distinct, ← hkeys] at hmem
    obtain ⟨r', hr', heq⟩ := List.mem_map.mp hmem
    exact ⟨r', hr', heq⟩
  · rw [← map_lookUp_references, firsts_map]

/-! ## Entities and relationships -/

def withLine (d : Diagram) (line : Line) : List Relationship :=
  d.relationships.filter (·.line == line)

/-- What the diagram of a form is made of. -/
structure IsDiagramOf (s : Spec.FormSpec) (d : Diagram) : Prop where
  formName : d.formName = s.name
  /-- The blocks come first, then the record groups by their first references. -/
  entities : ∃ refs, FirstReferences s (fun l => l.lov.recordGroup) refs ∧
    ∃ table : String → String, (∀ query, IsTableOf query (table query)) ∧
      d.entities = s.blocks.map Entity.ofBlock ++ refs.map (fun r =>
        let lov := r.lookUp.lov
        { id := "ext-" ++ lov.recordGroup
          table := if table lov.query = "" then lov.recordGroup else table lov.query
          kind := .external })
  relationships : d.relationships = d.withLine .solid ++ d.withLine .dashed
  unowned : (∀ b ∈ s.blocks, kindOf b ≠ .header) → d.withLine .solid = []
  owned : ∀ before header after, s.blocks = before ++ header :: after →
    (∀ b ∈ before, kindOf b ≠ .header) → kindOf header = .header →
    d.withLine .solid = (s.blocks.filter (fun b => kindOf b = .detail)).map (fun b =>
      { id := "rel-" ++ header.name ++ "-" ++ b.name, source := header.name, target := b.name })
  /-- The pairs of a block and a record group are joined by their first references. -/
  joined : ∃ refs, FirstReferences s (fun l => (l.block, l.lov.recordGroup)) refs ∧
    d.withLine .dashed = refs.map (fun r =>
      let l := r.lookUp
      { id := "lov-" ++ l.block ++ "-" ++ l.lov.recordGroup
        source := l.block
        target := "ext-" ++ l.lov.recordGroup
        line := .dashed
        label := l.lov.name })
  anchored : ∀ r ∈ d.relationships,
    (∃ e ∈ d.entities, e.id = r.source) ∧ ∃ e ∈ d.entities, e.id = r.target
  shown : d.showExternal = true → d.visible = d
  /-- Without its external entities, a diagram keeps its blocks and its solid lines. -/
  hidden : d.showExternal = false →
    (∀ b ∈ s.blocks, ∀ e ∈ d.entities, e.kind = .external → b.name ≠ e.id) →
    d.visible =
      { d with entities := s.blocks.map Entity.ofBlock, relationships := d.withLine .solid }

/-- An ownership leads from a header to a detail. -/
theorem exists_ownership {blocks : List Entity} {r : Relationship} (h : r ∈ ownerships blocks) :
    ∃ header ∈ blocks, ∃ detail ∈ blocks, header.kind = .header ∧ detail.kind = .detail ∧
      r = ownership header detail := by
  rw [ownerships] at h
  split at h
  · next header hheader =>
    obtain ⟨detail, hdetail, rfl⟩ := List.mem_map.mp h
    obtain ⟨hmem, hkind⟩ := List.mem_filter.mp hdetail
    exact ⟨header, List.mem_of_find?_eq_some hheader, detail, hmem,
      by simpa using List.find?_some hheader, by simpa using hkind, rfl⟩
  · cases h

theorem line_of_mem_ownerships {blocks : List Entity} {r : Relationship}
    (h : r ∈ ownerships blocks) : r.line = .solid := by
  obtain ⟨header, -, detail, -, -, -, rfl⟩ := exists_ownership h
  rfl

theorem exists_of_mem_ownerships {blocks : List Entity} {r : Relationship}
    (h : r ∈ ownerships blocks) :
    (∃ e ∈ blocks, e.id = r.source) ∧ ∃ e ∈ blocks, e.id = r.target := by
  obtain ⟨header, hheader, detail, hdetail, -, -, rfl⟩ := exists_ownership h
  exact ⟨⟨header, hheader, rfl⟩, ⟨detail, hdetail, rfl⟩⟩

theorem kindOf_ne_external (b : Spec.Block) : kindOf b ≠ .external := by
  rw [kindOf]
  split
  · simp
  · simp
  · split <;> simp

theorem ownerships_eq_nil (h : ∀ b ∈ s.blocks, kindOf b ≠ .header) :
    ownerships (s.blocks.map Entity.ofBlock) = [] := by
  have hnone : (s.blocks.map Entity.ofBlock).find? (·.kind == .header) = none := by
    rw [List.find?_eq_none]
    intro e he
    obtain ⟨b, hb, rfl⟩ := List.mem_map.mp he
    simpa [Entity.ofBlock] using h b hb
  rw [ownerships, hnone]

theorem ownerships_eq {before after : List Spec.Block} {header : Spec.Block}
    (hsplit : s.blocks = before ++ header :: after) (hbefore : ∀ b ∈ before, kindOf b ≠ .header)
    (hheader : kindOf header = .header) :
    ownerships (s.blocks.map Entity.ofBlock) =
      (s.blocks.filter (fun b => kindOf b = .detail)).map (fun b =>
        ownership (.ofBlock header) (.ofBlock b)) := by
  have hfind : (s.blocks.map Entity.ofBlock).find? (·.kind == .header) =
      some (.ofBlock header) := by
    rw [List.find?_eq_some_iff_append]
    refine ⟨by simp [Entity.ofBlock, hheader], before.map .ofBlock, after.map .ofBlock,
      by simp [hsplit], fun e he => ?_⟩
    obtain ⟨b, hb, rfl⟩ := List.mem_map.mp he
    simpa [Entity.ofBlock] using hbefore b hb
  rw [ownerships, hfind]
  dsimp only
  rw [List.filter_map, List.map_map]
  rfl

variable {showExternal : Bool}

theorem withLine_solid : (ofSpec s showExternal).withLine .solid =
    ownerships (s.blocks.map Entity.ofBlock) := by
  have hsolid : (ownerships (s.blocks.map Entity.ofBlock)).filter (·.line == .solid) =
      ownerships (s.blocks.map Entity.ofBlock) :=
    List.filter_eq_self.mpr fun r hr => by simp [line_of_mem_ownerships hr]
  rw [withLine, ofSpec, List.filter_append, hsolid, List.filter_map]
  simp [Function.comp_def, Relationship.ofLookUp]

theorem withLine_dashed : (ofSpec s showExternal).withLine .dashed =
    (firsts (fun l => (l.block, l.lov.recordGroup)) (lookUps s)).map Relationship.ofLookUp := by
  have hdashed : (ownerships (s.blocks.map Entity.ofBlock)).filter (·.line == .dashed) = [] :=
    List.filter_eq_nil_iff.mpr fun r hr => by simp [line_of_mem_ownerships hr]
  rw [withLine, ofSpec, List.filter_append, hdashed, List.filter_map]
  simp [Function.comp_def, Relationship.ofLookUp]

theorem entities_eq : (ofSpec s showExternal).entities =
    s.blocks.map Entity.ofBlock ++
      (firsts (·.lov.recordGroup) (lookUps s)).map Entity.ofLookUp := rfl

theorem relationships_eq : (ofSpec s showExternal).relationships =
    (ofSpec s showExternal).withLine .solid ++ (ofSpec s showExternal).withLine .dashed := by
  rw [withLine_solid, withLine_dashed, ofSpec]

/-- Every look-up leads from a block to an external entity of the diagram. -/
theorem exists_of_mem_lookUps {l : LookUp} (h : l ∈ lookUps s) :
    (∃ b ∈ s.blocks, b.name = l.block) ∧
      ∃ e ∈ (ofSpec s showExternal).entities, e.kind = .external ∧
        e.id = externalId l.lov.recordGroup := by
  constructor
  · rw [← map_lookUp_references] at h
    obtain ⟨r, hr, rfl⟩ := List.mem_map.mp h
    obtain ⟨b, f, hb, -, hblock, -⟩ := mem_references.mp hr
    exact ⟨b, List.mem_of_getElem? hb, hblock.symm⟩
  · have hgroup : l.lov.recordGroup ∈ (firsts (·.lov.recordGroup) (lookUps s)).map
        (·.lov.recordGroup) := by
      rw [map_firsts, mem_distinct]
      exact List.mem_map_of_mem h
    obtain ⟨first, hfirst, heq⟩ := List.mem_map.mp hgroup
    refine ⟨.ofLookUp first, List.mem_append_right _ (List.mem_map_of_mem hfirst), rfl, ?_⟩
    exact congrArg externalId heq

theorem exists_of_mem_dashed {r : Relationship}
    (h : r ∈ (ofSpec s showExternal).withLine .dashed) :
    (∃ b ∈ s.blocks, b.name = r.source) ∧
      ∃ e ∈ (ofSpec s showExternal).entities, e.kind = .external ∧ e.id = r.target := by
  rw [withLine_dashed] at h
  obtain ⟨l, hl, rfl⟩ := List.mem_map.mp h
  exact exists_of_mem_lookUps ((firsts_sublist _ _).subset hl)

theorem mem_entities_ofBlock {b : Spec.Block} (h : b ∈ s.blocks) :
    Entity.ofBlock b ∈ (ofSpec s showExternal).entities :=
  List.mem_append_left _ (List.mem_map_of_mem h)

theorem exists_source_target {r : Relationship} (h : r ∈ (ofSpec s showExternal).relationships) :
    (∃ e ∈ (ofSpec s showExternal).entities, e.id = r.source) ∧
      ∃ e ∈ (ofSpec s showExternal).entities, e.id = r.target := by
  rw [relationships_eq, List.mem_append] at h
  rcases h with h | h
  · rw [withLine_solid] at h
    obtain ⟨⟨source, hsource, heq⟩, ⟨target, htarget, heq'⟩⟩ := exists_of_mem_ownerships h
    exact ⟨⟨source, List.mem_append_left _ hsource, heq⟩,
      ⟨target, List.mem_append_left _ htarget, heq'⟩⟩
  · obtain ⟨⟨b, hb, hsource⟩, ⟨e, he, -, htarget⟩⟩ := exists_of_mem_dashed h
    exact ⟨⟨.ofBlock b, mem_entities_ofBlock hb, hsource⟩, ⟨e, he, htarget⟩⟩

theorem visible_of_showExternal {d : Diagram} (hshow : d.showExternal = true)
    (hends : ∀ r ∈ d.relationships,
      (∃ e ∈ d.entities, e.id = r.source) ∧ ∃ e ∈ d.entities, e.id = r.target) :
    d.visible = d := by
  have hentities : d.entities.filter (fun e => d.showExternal || e.kind != .external) =
      d.entities := List.filter_eq_self.mpr fun e _ => by simp [hshow]
  have hrelationships : d.relationships.filter (fun r =>
      d.entities.any (·.id == r.source) && d.entities.any (·.id == r.target)) =
        d.relationships :=
    List.filter_eq_self.mpr fun r hr => by simpa using hends r hr
  simp only [visible, hentities, hrelationships]

theorem entities_internal : (ofSpec s false).entities.filter (fun e => e.kind != .external) =
    s.blocks.map Entity.ofBlock := by
  have hblocks : (s.blocks.map Entity.ofBlock).filter (fun e => e.kind != .external) =
      s.blocks.map Entity.ofBlock := by
    refine List.filter_eq_self.mpr fun e he => ?_
    obtain ⟨b, -, rfl⟩ := List.mem_map.mp he
    simpa [Entity.ofBlock] using kindOf_ne_external b
  rw [entities_eq, List.filter_append, hblocks, List.filter_map]
  simp [Function.comp_def, Entity.ofLookUp]

/-- A look-up is hidden with the external entity that it leads to, unless a block has its id. -/
theorem visible_of_not_showExternal
    (hid : ∀ b ∈ s.blocks, ∀ e ∈ (ofSpec s false).entities, e.kind = .external → b.name ≠ e.id) :
    (ofSpec s false).visible =
      { ofSpec s false with
        entities := s.blocks.map Entity.ofBlock
        relationships := (ofSpec s false).withLine .solid } := by
  have hsolid : ((ofSpec s false).withLine .solid).filter (fun r =>
      (s.blocks.map Entity.ofBlock).any (·.id == r.source) &&
        (s.blocks.map Entity.ofBlock).any (·.id == r.target)) =
        (ofSpec s false).withLine .solid := by
    refine List.filter_eq_self.mpr fun r hr => ?_
    rw [withLine_solid] at hr
    simpa using exists_of_mem_ownerships hr
  -- A look-up leads to an external entity, and no block that remains has the id of one.
  have hdashed : ((ofSpec s false).withLine .dashed).filter (fun r =>
      (s.blocks.map Entity.ofBlock).any (·.id == r.source) &&
        (s.blocks.map Entity.ofBlock).any (·.id == r.target)) = [] := by
    refine List.filter_eq_nil_iff.mpr fun r hr => ?_
    obtain ⟨-, e, he, hkind, htarget⟩ := exists_of_mem_dashed hr
    have hno : ∀ b ∈ s.blocks, b.name ≠ r.target := fun b hb => htarget ▸ hid b hb e he hkind
    simpa [Entity.ofBlock] using fun _ _ _ => hno
  have hinternal : (ofSpec s false).entities.filter (fun e =>
      (ofSpec s false).showExternal || e.kind != .external) = s.blocks.map Entity.ofBlock :=
    entities_internal
  rw [visible]
  simp only [hinternal]
  rw [relationships_eq, List.filter_append, hsolid, hdashed, List.append_nil]

theorem isDiagramOf_ofSpec (s : Spec.FormSpec) (showExternal : Bool) :
    IsDiagramOf s (ofSpec s showExternal) where
  formName := rfl
  entities := by
    obtain ⟨refs, hrefs, heq⟩ := exists_firstReferences s (fun l => l.lov.recordGroup)
    refine ⟨refs, hrefs, tableOfQuery, fun query => isTableOf_iff.mpr rfl, ?_⟩
    rw [entities_eq, heq, List.map_map]
    congr 1
    refine List.map_congr_left fun r _ => ?_
    simp [Entity.ofLookUp, externalId, Form.orText]
  relationships := relationships_eq
  unowned h := by rw [withLine_solid, ownerships_eq_nil h]
  owned before header after hsplit hbefore hheader := by
    rw [withLine_solid, ownerships_eq hsplit hbefore hheader]
    rfl
  joined := by
    obtain ⟨refs, hrefs, heq⟩ := exists_firstReferences s (fun l => (l.block, l.lov.recordGroup))
    refine ⟨refs, hrefs, ?_⟩
    rw [withLine_dashed, heq, List.map_map]
    rfl
  anchored _ h := exists_source_target h
  shown h := visible_of_showExternal h fun _ hr => exists_source_target hr
  hidden h hid := by
    obtain rfl : showExternal = false := h
    exact visible_of_not_showExternal hid

/-- Two lists of values share a record group, and both blocks refer to it. -/
def sharedGroup : Spec.FormSpec :=
  { name := "F"
    blocks := [
      { name := "A", baseTable := "TA", singleRecord := some true
        fields := [
          { (default : Spec.Field) with column := "A_X", lovName := "LOV_1" },
          { (default : Spec.Field) with column := "A_Y", lovName := "LOV_2" }] },
      { name := "B", baseTable := "TB", singleRecord := some false
        fields := [{ (default : Spec.Field) with column := "B_ID", lovName := "LOV_1" }] }]
    lovs := [
      { number := 1, name := "LOV_1", recordGroup := "RG", query := "select x from t_shared" },
      { number := 2, name := "LOV_2", recordGroup := "RG", query := "select x from t_shared" }] }

theorem isDiagramOf_ofSpec_sharedGroup :
    (ofSpec sharedGroup false).entities.map (·.id) = ["A", "B", "ext-RG"] ∧
      ((ofSpec sharedGroup false).withLine .dashed).map (·.id) = ["lov-A-RG", "lov-B-RG"] ∧
      ((ofSpec sharedGroup false).withLine .solid).map (·.id) = ["rel-A-B"] ∧
      (ofSpec sharedGroup false).visible =
        { ofSpec sharedGroup false with
          entities := sharedGroup.blocks.map Entity.ofBlock
          relationships := (ofSpec sharedGroup false).withLine .solid } := by
  refine ⟨by decide, by decide, by decide, ?_⟩
  exact (isDiagramOf_ofSpec sharedGroup false).hidden rfl (by decide)

end Formwork.Diagram
