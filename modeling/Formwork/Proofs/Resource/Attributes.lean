import Formwork.Proofs.Schema.Coverage
import Formwork.Proofs.Schema.Statement
import Formwork.Resource.Definition

/-!
# The attributes that tables define

The resource script and the schema script send rows to objects by rules of their own. The tables
are made in three steps: the primary record from its header rows, a table for each relationship of
detail rows, and what rows give to the objects that they name. Each step defines the attributes of
its rows and the keys of the tables that it makes, so that the whole defines what the schema script
stages, the detail tables and the keys.
-/
namespace Formwork

namespace Row

/-- The name under which the attribute of a row is created. -/
def attributeName (r : Row) : String :=
  Text.upper r.fieldName.words

/-- Whether the attribute of a row is created outside the list. -/
def isDefined (s : Settings) (m : Metadata) (r : Row) : Bool :=
  r.area != .list && r.isCustom s (some m)

/-- Whether the row stands in a detail table without naming an object. -/
def isDetail (s : Settings) (m : Metadata) (r : Row) : Bool :=
  r.isCustom s (some m) && r.area == .detail && !r.objectName.truthy

/-- The object of a row is a text, if the row names one. -/
def NamesObjectIfAny (r : Row) : Prop :=
  r.objectName.truthy = true → r.NamesObject

/-- What decides where a sound row goes. -/
structure Routable (r : Row) : Prop where
  known : isKnownArea r.area = true
  related : r.area = .detail → r.relationship.truthy = true
  object : r.objectName.truthy = true → r.objectName.words ≠ ""

theorem routable_resolve {r : Row} (h : r.problems = []) (hobject : r.NamesObjectIfAny)
    (mark : String) : (r.resolve mark).Routable where
  known := by
    rw [resolve_area]
    exact isKnownArea_of_problems h
  related := by
    rw [resolve_area, resolve_relationship]
    exact relationship_of_problems h
  object := by
    have hsame : (r.resolve mark).objectName = r.objectName := by
      unfold resolve
      split <;> rfl
    rw [hsame]
    exact fun ht => (hobject ht).words_ne_empty ht

end Row

namespace Resource

variable {s : Settings} {m : Metadata}

/-- Object and name of every attribute that tables define. -/
def definedAttributes (tables : List TableDefinition) : List (String × String) :=
  tables.flatMap (fun t => t.attributes.map (fun a => (t.object, a.name)))

/-- The attribute is the generated key of a table that does not exist yet. -/
def IsKeyOf (tables : List TableDefinition) (k : String × String) : Prop :=
  ∃ t ∈ tables, t.existing = false ∧ k = (t.object, keyName t.object)

/-- Tables define given attributes, the keys of the new ones, and nothing else. -/
def Define (tables : List TableDefinition) (given : List (String × String)) : Prop :=
  ∀ k, k ∈ definedAttributes tables ↔ k ∈ given ∨ IsKeyOf tables k

theorem map_name_attributesOf (rows : List Row) :
    (attributesOf rows).map (·.name) = distinct (rows.map Row.attributeName) := by
  rw [attributesOf, List.map_map]
  exact map_firsts Row.attributeName rows

theorem mem_names_attributesOf {rows : List Row} {name : String} :
    name ∈ (attributesOf rows).map (·.name) ↔ ∃ r ∈ rows, r.attributeName = name := by
  rw [map_name_attributesOf, mem_distinct, List.mem_map]

theorem definedAttributes_append (tables tables' : List TableDefinition) :
    definedAttributes (tables ++ tables') =
      definedAttributes tables ++ definedAttributes tables' :=
  List.flatMap_append

theorem isKeyOf_append {tables tables' : List TableDefinition} {k : String × String} :
    IsKeyOf (tables ++ tables') k ↔ IsKeyOf tables k ∨ IsKeyOf tables' k := by
  simp only [IsKeyOf, List.mem_append, or_and_right, exists_or]

theorem define_nil : Define [] [] := by
  intro k
  simp [definedAttributes, IsKeyOf]

theorem Define.append {tables tables' : List TableDefinition}
    {given given' : List (String × String)} (h : Define tables given)
    (h' : Define tables' given') : Define (tables ++ tables') (given ++ given') := by
  intro k
  rw [definedAttributes_append, List.mem_append, List.mem_append, isKeyOf_append, h k, h' k]
  exact or_or_or_comm

/-- A table made from rows defines their attributes. -/
theorem define_table (object description : String) (existing : Bool) (rows : List Row) :
    Define [(emptyTable s object description existing).extend (attributesOf rows)]
      (rows.map (fun r => (object, r.attributeName))) := by
  intro k
  have hrows : k ∈ rows.map (fun r => (object, r.attributeName)) ↔
      k ∈ (attributesOf rows).map (fun a => (object, a.name)) := by
    have hname : k.2 ∈ (attributesOf rows).map (·.name) ↔ ∃ r ∈ rows, r.attributeName = k.2 :=
      mem_names_attributesOf
    rw [List.mem_map] at hname ⊢
    rw [List.mem_map]
    constructor
    · rintro ⟨r, hr, rfl⟩
      obtain ⟨a, ha, hak⟩ := hname.mpr ⟨r, hr, rfl⟩
      exact ⟨a, ha, by rw [hak]⟩
    · rintro ⟨a, ha, rfl⟩
      obtain ⟨r, hr, hrk⟩ := hname.mp ⟨a, ha, rfl⟩
      exact ⟨r, hr, by rw [hrk]⟩
  rw [hrows]
  cases existing
  · simp [definedAttributes, IsKeyOf, emptyTable, TableDefinition.extend, keyAttribute, or_comm]
  · simp [definedAttributes, IsKeyOf, emptyTable, TableDefinition.extend]

/-- Objects with rows of theirs, as objects and names of attributes. -/
def groupAttributes (groups : List (String × List Row)) : List (String × String) :=
  groups.flatMap (fun g => g.2.map (fun r => (g.1, r.attributeName)))

/-- Rows divided by the object that they go to keep their attributes. -/
theorem mem_groupAttributes_classes {object : Row → String} {rows : List Row}
    {k : String × String} :
    k ∈ groupAttributes (classes object rows) ↔
      ∃ r ∈ rows, (object r, r.attributeName) = k := by
  rw [groupAttributes, List.mem_flatMap]
  constructor
  · rintro ⟨g, hg, hk⟩
    obtain ⟨r, hr, rfl⟩ := List.mem_map.mp hk
    obtain ⟨name, -, rfl⟩ := List.mem_map.mp hg
    obtain ⟨hrows, hname⟩ := List.mem_filter.mp hr
    exact ⟨r, hrows, by rw [eq_of_beq hname]⟩
  · rintro ⟨r, hr, rfl⟩
    refine ⟨(object r, rows.filter (fun a => object a == object r)), ?_, ?_⟩
    · exact List.mem_map.mpr ⟨object r, mem_distinct.mpr (List.mem_map_of_mem hr), rfl⟩
    · exact List.mem_map.mpr ⟨r, List.mem_filter.mpr ⟨hr, beq_self_eq_true _⟩, rfl⟩

/-- The tables of several groups of rows define the attributes of the groups. -/
theorem define_tables (description : String → String) (existing : Bool)
    (groups : List (String × List Row)) :
    Define
      (groups.map (fun g => (emptyTable s g.1 (description g.1) existing).extend
        (attributesOf g.2)))
      (groupAttributes groups) := by
  induction groups with
  | nil => exact define_nil
  | cons g groups ih => exact (define_table g.1 (description g.1) existing g.2).append ih

/-- The attributes that join the table of the primary record are those that it lacks, so that it
defines all of them afterwards. -/
theorem Define.join {first : TableDefinition} {rest : List TableDefinition}
    {given : List (String × String)} (h : Define (first :: rest) given) (rows : List Row) :
    Define (first.extend ((attributesOf rows).filter
        (fun a => !(first.attributes.any (·.name == a.name)))) :: rest)
      (given ++ rows.map (fun r => (first.object, r.attributeName))) := by
  rintro ⟨object, name⟩
  have hkeys : IsKeyOf (first.extend ((attributesOf rows).filter
      (fun a => !(first.attributes.any (·.name == a.name)))) :: rest) (object, name) ↔
        IsKeyOf (first :: rest) (object, name) := by
    simp [IsKeyOf, TableDefinition.extend]
  have hdefined : (object, name) ∈ definedAttributes (first.extend ((attributesOf rows).filter
      (fun a => !(first.attributes.any (·.name == a.name)))) :: rest) ↔
        (object, name) ∈ definedAttributes (first :: rest) ∨
          (object = first.object ∧ name ∈ (attributesOf rows).map (·.name)) := by
    simp only [definedAttributes, TableDefinition.extend, List.flatMap_cons, List.map_append,
      List.append_assoc, List.mem_append, List.mem_map, Prod.mk.injEq, List.mem_filter,
      Bool.not_eq_eq_eq_not, Bool.not_true, List.any_eq_false, beq_iff_eq, List.mem_flatMap]
    -- An attribute of the rows that is left out has the name of one that the table has.
    grind
  rw [hdefined, hkeys, h, mem_names_attributesOf, List.mem_append, List.mem_map]
  grind

theorem Define.addRouted {tables : List TableDefinition} {given : List (String × String)}
    (h : Define tables given) (g : String × List Row) :
    Define (addRouted s m tables g)
      (given ++ g.2.map (fun r => (g.1, r.attributeName))) := by
  obtain ⟨object, rows⟩ := g
  have hseparate := h.append (define_table (s := s) object object m.isStandard rows)
  unfold Resource.addRouted
  cases tables with
  | nil => exact hseparate
  | cons first rest =>
    dsimp only
    split
    · -- The rows join the first table, which is that of their object.
      next hmain =>
      have hobject : object = first.object := by
        simp only [Bool.and_eq_true, beq_iff_eq] at hmain
        exact hmain.1.trans hmain.2.symm
      rw [hobject]
      exact h.join rows
    · exact hseparate

theorem Define.foldl_addRouted (groups : List (String × List Row)) :
    ∀ {tables : List TableDefinition} {given : List (String × String)}, Define tables given →
      Define (groups.foldl (Resource.addRouted s m) tables) (given ++ groupAttributes groups) := by
  induction groups with
  | nil =>
    intro tables given h
    rw [groupAttributes, List.flatMap_nil, List.append_nil]
    exact h
  | cons g groups ih =>
    intro tables given h
    rw [groupAttributes, List.flatMap_cons, ← List.append_assoc]
    exact ih (h.addRouted g)

/-! ## The rows behind the tables -/

/-- The custom header rows that belong to the primary record. -/
def headerRows (s : Settings) (m : Metadata) (rows : List Row) : List Row :=
  (rows.filter (Row.isDefined s m)).filter (fun r =>
    r.area == .header && !r.objectName.truthy && !r.relationship.truthy)

/-- The custom rows that name an object. -/
def routedRows (s : Settings) (m : Metadata) (rows : List Row) : List Row :=
  (rows.filter (Row.isDefined s m)).filter (·.objectName.truthy)

/-- The custom rows of the detail tables. -/
def detailRows (s : Settings) (m : Metadata) (rows : List Row) : List Row :=
  (rows.filter (Row.isDefined s m)).filter (fun r =>
    !r.objectName.truthy && r.area == .detail && r.relationship.truthy)

/-- The object of a detail table. -/
def relatedObject (r : Row) : String :=
  Text.upper r.relationship.words

theorem define_definitions (title : String) (rows : List Row) :
    Define (definitions s m title rows).1
      ((headerRows s m rows).map (fun r => (m.record, r.attributeName)) ++
        groupAttributes (classes relatedObject (detailRows s m rows)) ++
        groupAttributes
          (classes (fun r => Text.upper r.objectName.words) (routedRows s m rows))) := by
  have hmain : Define
      (if (headerRows s m rows).isEmpty && m.isStandard then [] else
        [(emptyTable s m.record (if title == "" then m.record else title) m.isStandard).extend
          (attributesOf (headerRows s m rows))])
      ((headerRows s m rows).map (fun r => (m.record, r.attributeName))) := by
    split
    · next hnone =>
      rw [List.isEmpty_iff.mp (Bool.and_eq_true_iff.mp hnone).1]
      exact define_nil
    · exact define_table _ _ _ _
  have htables := hmain.append (define_tables (s := s) (fun name => m.record ++ " - " ++ name) false
    (classes relatedObject (detailRows s m rows)))
  exact htables.foldl_addRouted _

/-- The attribute of a row outside the list is staged when it stands in the header of the primary
record or when the row names an object. -/
theorem target_ne_empty_iff {r : Row} (h : r.Routable)
    (hrecord : m.recordName.words ≠ "") (hlist : r.area ≠ .list) :
    r.target m.recordName.words ≠ "" ↔
      r.objectName.truthy = true ∨ (r.area = .header ∧ r.relationship.truthy = false) := by
  constructor
  · intro htarget
    by_cases hobject : r.objectName.truthy = true
    · exact Or.inl hobject
    · have hrelationship := (Row.routed_of_target_ne_empty htarget).resolve_left hobject
      refine Or.inr ⟨?_, hrelationship⟩
      have hknown := h.known
      have hrelated := h.related
      cases harea : r.area with
      | header => rfl
      | detail => simp [hrelated harea] at hrelationship
      | list => exact absurd harea hlist
      | other word => simp [harea, Row.isKnownArea] at hknown
  · rintro (hobject | ⟨-, hrelationship⟩)
    · rw [Row.target, if_pos hobject]
      exact fun hempty => h.object hobject (Text.upper_eq_empty.mp hempty)
    · rw [Row.target, hrelationship]
      split
      · next hobject => exact fun hempty => h.object hobject (Text.upper_eq_empty.mp hempty)
      · exact fun hempty => hrecord (Text.upper_eq_empty.mp hempty)

theorem mem_headerRows {rows : List Row} {r : Row} :
    r ∈ headerRows s m rows ↔ r ∈ rows ∧ r.isDefined s m = true ∧ r.area = .header ∧
      r.objectName.truthy = false ∧ r.relationship.truthy = false := by
  simp only [headerRows, List.mem_filter, Bool.and_eq_true, beq_iff_eq, Bool.not_eq_true',
    and_assoc]

theorem mem_routedRows {rows : List Row} {r : Row} :
    r ∈ routedRows s m rows ↔
      r ∈ rows ∧ r.isDefined s m = true ∧ r.objectName.truthy = true := by
  simp only [routedRows, List.mem_filter, and_assoc]

theorem attributeKey_of_object {r : Row} (hobject : r.objectName.truthy = true) :
    Schema.attributeKey m.recordName.words r =
      (Text.upper r.objectName.words, r.attributeName) := by
  rw [Schema.attributeKey, Row.target, if_pos hobject]
  rfl

theorem attributeKey_of_header {r : Row} (hobject : r.objectName.truthy = false)
    (hrelationship : r.relationship.truthy = false) :
    Schema.attributeKey m.recordName.words r = (m.record, r.attributeName) := by
  rw [Schema.attributeKey, Row.target, hobject, hrelationship]
  rfl

/-- What the rows of the primary record and the rows that name an object stand for is what the
schema script stages for rows outside the list. -/
theorem mem_routed_iff {rows : List Row} (h : ∀ r ∈ rows, r.Routable)
    (hrecord : m.recordName.words ≠ "") {k : String × String} :
    ((∃ r ∈ headerRows s m rows, (m.record, r.attributeName) = k) ∨
        ∃ r ∈ routedRows s m rows, (Text.upper r.objectName.words, r.attributeName) = k) ↔
      ∃ r ∈ rows, r.isDefined s m = true ∧ r.target m.recordName.words ≠ "" ∧
        Schema.attributeKey m.recordName.words r = k := by
  have htarget : ∀ r ∈ rows, r.isDefined s m = true → (r.target m.recordName.words ≠ "" ↔
      r.objectName.truthy = true ∨ (r.area = .header ∧ r.relationship.truthy = false)) := by
    intro r hr hdefined
    have hlist : r.area ≠ .list := by simpa using (Bool.and_eq_true_iff.mp hdefined).1
    exact target_ne_empty_iff (h r hr) hrecord hlist
  constructor
  · rintro (⟨r, hr, rfl⟩ | ⟨r, hr, rfl⟩)
    · obtain ⟨hr, hdefined, harea, hobject, hrelationship⟩ := mem_headerRows.mp hr
      have hstaged := (htarget r hr hdefined).mpr (Or.inr ⟨harea, hrelationship⟩)
      exact ⟨r, hr, hdefined, hstaged, attributeKey_of_header hobject hrelationship⟩
    · obtain ⟨hr, hdefined, hobject⟩ := mem_routedRows.mp hr
      have hstaged := (htarget r hr hdefined).mpr (Or.inl hobject)
      exact ⟨r, hr, hdefined, hstaged, attributeKey_of_object hobject⟩
  · rintro ⟨r, hr, hdefined, hstaged, rfl⟩
    by_cases hobject : r.objectName.truthy = true
    · exact Or.inr ⟨r, mem_routedRows.mpr ⟨hr, hdefined, hobject⟩,
        (attributeKey_of_object hobject).symm⟩
    · have hno : r.objectName.truthy = false := Bool.eq_false_iff.mpr hobject
      obtain ⟨harea, hrelationship⟩ := ((htarget r hr hdefined).mp hstaged).resolve_left hobject
      exact Or.inl ⟨r, mem_headerRows.mpr ⟨hr, hdefined, harea, hno, hrelationship⟩,
        (attributeKey_of_header hno hrelationship).symm⟩

/-- What a statement stages for rows outside the list. -/
theorem mem_key_and_isDefined_iff {rows : List Row} {k : String × String} :
    (k ∈ (Schema.statements s m rows).1.map Schema.Statement.key ∧
        ∃ r ∈ rows, r.isDefined s m = true ∧ Schema.attributeKey m.recordName.words r = k) ↔
      ∃ r ∈ rows, r.isDefined s m = true ∧ r.target m.recordName.words ≠ "" ∧
        Schema.attributeKey m.recordName.words r = k := by
  constructor
  · rintro ⟨hkey, r, hr, hdefined, rfl⟩
    obtain ⟨r', hr', hsame⟩ := Schema.mem_map_key_statements.mp hkey
    have htarget := (Schema.mem_stagedRows.mp hr').2.2
    rw [(Prod.mk.inj hsame).1] at htarget
    exact ⟨r, hr, hdefined, htarget, rfl⟩
  · rintro ⟨r, hr, hdefined, htarget, rfl⟩
    have hcustom := (Bool.and_eq_true_iff.mp hdefined).2
    refine ⟨Schema.mem_map_key_statements.mpr ⟨r, ?_, rfl⟩, r, hr, hdefined, rfl⟩
    exact Schema.mem_stagedRows.mpr ⟨hr, hcustom, htarget⟩

/-- Sound detail rows have a relationship. -/
theorem detailRows_eq {rows : List Row} (h : ∀ r ∈ rows, r.Routable) :
    detailRows s m rows = rows.filter (Row.isDetail s m) := by
  rw [detailRows, List.filter_filter]
  refine List.filter_congr fun r hr => ?_
  have hrelated := (h r hr).related
  rw [Bool.eq_iff_iff]
  simp only [Row.isDefined, Row.isDetail, Bool.and_eq_true, Bool.not_eq_true', beq_iff_eq,
    bne_iff_ne]
  constructor
  · rintro ⟨⟨⟨hobject, harea⟩, -⟩, -, hcustom⟩
    exact ⟨⟨hcustom, harea⟩, hobject⟩
  · rintro ⟨⟨hcustom, harea⟩, hobject⟩
    refine ⟨⟨⟨hobject, harea⟩, hrelated harea⟩, ?_, hcustom⟩
    rw [harea]
    decide

/-- **The tables define what the statements stage, the detail tables and the keys.** Of sound rows
that name their objects by texts, an attribute is defined if and only if a statement stages it and a
custom row outside the list goes there, or it belongs to a custom detail row that names no object,
or it is the key of a table that does not exist yet. Each relationship of those detail rows leads
from the primary record to a table of its own, once, in the order in which the relationships first
occur. -/
theorem definitions_exact (s : Settings) (m : Metadata) (title : String) (rows : List Row)
    (hsound : Row.requireSound (some m) rows = .ok ())
    (hobject : ∀ r ∈ rows, r.NamesObjectIfAny) :
    let named := Row.resolveAll s (some m) rows
    let tables := (definitions s m title named).1
    let relationships := (definitions s m title named).2
    (∀ k, k ∈ definedAttributes tables ↔
        (k ∈ (Schema.statements s m named).1.map Schema.Statement.key ∧
            ∃ r ∈ named, r.isDefined s m = true ∧
              Schema.attributeKey m.recordName.words r = k) ∨
          (∃ r ∈ named, r.isDetail s m = true ∧ (relatedObject r, r.attributeName) = k) ∨
          IsKeyOf tables k) ∧
      relationships.map (fun d => (d.name, d.parent, d.child)) =
        (distinct ((named.filter (Row.isDetail s m)).map relatedObject)).map
          (fun name => (name, m.record, name)) := by
  intro named tables relationships
  have hroutable : ∀ r ∈ named, r.Routable := by
    intro r hr
    obtain ⟨given, hgiven, rfl⟩ := List.mem_map.mp hr
    exact Row.routable_resolve (Row.problems_of_requireSound hsound hgiven) (hobject given hgiven) _
  have hrecord := Row.record_of_requireSound hsound
  have hdetails := detailRows_eq (s := s) (m := m) hroutable
  constructor
  · intro k
    have hdetail : (∃ r ∈ detailRows s m named, (relatedObject r, r.attributeName) = k) ↔
        ∃ r ∈ named, r.isDetail s m = true ∧ (relatedObject r, r.attributeName) = k := by
      rw [hdetails]
      simp only [List.mem_filter, and_assoc]
    rw [mem_key_and_isDefined_iff, ← mem_routed_iff hroutable hrecord, ← hdetail,
      define_definitions title named k, List.mem_append, List.mem_append, List.mem_map,
      mem_groupAttributes_classes, mem_groupAttributes_classes]
    exact (or_congr_left or_right_comm).trans or_assoc
  · have hrelated : relationships.map (fun d => (d.name, d.parent, d.child)) =
        ((classes relatedObject (detailRows s m named)).map (·.1)).map
          (fun name => (name, m.record, name)) := by
      rw [List.map_map]
      exact List.map_map
    rw [hrelated, map_fst_classes, hdetails]

/-- A new record with a header row, a detail row, a row that names an object and a list row. -/
theorem definitions_exact_new_record :
    let m : Metadata := { recordName := .text "zz_trip", isStandard := false }
    let rows : List Row :=
      [{ fieldName := .text "A", label := .text "A" },
       { fieldName := .text "B", label := .text "B", area := .detail,
         relationship := .text "legs" },
       { fieldName := .text "C", label := .text "C", area := .detail,
         relationship := .text "legs", objectName := .text "person" },
       { fieldName := .text "D", label := .text "D", area := .list }]
    let named := Row.resolveAll .builtin (some m) rows
    let tables := (definitions .builtin m "" named).1
    Row.requireSound (some m) rows = .ok () ∧ (∀ r ∈ rows, r.NamesObjectIfAny) ∧
      ("ZZ_TRIP", "A") ∈ definedAttributes tables ∧
      ("LEGS", "B") ∈ definedAttributes tables ∧
      ("PERSON", "C") ∈ definedAttributes tables ∧
      ("ZZ_TRIP", "D") ∉ definedAttributes tables ∧
      (definitions .builtin m "" named).2.map (fun d => (d.name, d.parent, d.child)) =
        [("LEGS", "ZZ_TRIP", "LEGS")] := by
  intro m rows named tables
  have hsound : Row.requireSound (some m) rows = .ok () :=
    Row.requireSound_eq_ok_iff.mpr (by decide +kernel)
  have hobject : ∀ r ∈ rows, r.NamesObjectIfAny := by
    simp only [rows, List.forall_mem_cons, List.not_mem_nil, false_imp_iff, implies_true, and_true]
    exact ⟨fun _ => ⟨"", rfl⟩, fun _ => ⟨"", rfl⟩, fun _ => ⟨"person", rfl⟩, fun _ => ⟨"", rfl⟩⟩
  obtain ⟨hdefined, hrelated⟩ := definitions_exact .builtin m "" rows hsound hobject
  refine ⟨hsound, hobject, (hdefined _).mpr ?_, (hdefined _).mpr ?_, (hdefined _).mpr ?_,
    fun hmem => ?_, hrelated.trans ?_⟩
  · exact Or.inl (by decide +kernel)
  · exact Or.inr (Or.inl (by decide +kernel))
  · exact Or.inl (by decide +kernel)
  · rcases (hdefined _).mp hmem with hstaged | hdetail | hkey
    · revert hstaged
      decide +kernel
    · revert hdetail
      decide +kernel
    · revert hkey
      unfold IsKeyOf
      decide +kernel
  · decide +kernel

end Resource

end Formwork
