import Formwork.Proofs.Resource.Attributes

/-!
# Attributes that are defined once

The tables of a script come from three kinds of rows, and each kind keeps its names apart from each
other only within a table. So an attribute is defined twice where a row bears the name of the
generated key of its table, and an object is created twice where a relationship bears the name of
the primary record or of an object that rows name.
-/
namespace Formwork.Resource

variable {s : Settings} {m : Metadata}

/-- The objects for which a table is created. -/
def createdObjects (tables : List TableDefinition) : List String :=
  (tables.filter (fun t => !t.existing)).map (·.object)

/-- The object that a row names. -/
def namedObject (r : Row) : String :=
  Text.upper r.objectName.words

/-- The primary record has a table of its own: it is created, or header rows add to it. -/
def HasMain (s : Settings) (m : Metadata) (rows : List Row) : Prop :=
  m.isStandard = false ∨ headerRows s m rows ≠ []

/-- No relationship of a detail table bears the name of another table. -/
structure Apart (s : Settings) (m : Metadata) (rows : List Row) : Prop where
  record : HasMain s m rows → ∀ r ∈ detailRows s m rows, relatedObject r ≠ m.record
  named : ∀ r ∈ detailRows s m rows, ∀ q ∈ routedRows s m rows, relatedObject r ≠ namedObject q

/-- No row bears the name of the key of the table that is created for it. Rows that name the
primary record join its table only where their names are new to it. -/
structure KeysFree (s : Settings) (m : Metadata) (rows : List Row) : Prop where
  detail : ∀ r ∈ detailRows s m rows, r.attributeName ≠ keyName (relatedObject r)
  header : m.isStandard = false → ∀ r ∈ headerRows s m rows, r.attributeName ≠ keyName m.record
  named : m.isStandard = false → ∀ r ∈ routedRows s m rows, namedObject r ≠ m.record →
    r.attributeName ≠ keyName (namedObject r)

/-! ## The attributes of one table -/

/-- The names of the attributes of a table, in order. -/
def TableDefinition.names (t : TableDefinition) : List String :=
  t.attributes.map (·.name)

/-- A table made from the rows of one object. -/
def tableOf (s : Settings) (object description : String) (existing : Bool) (rows : List Row) :
    TableDefinition :=
  (emptyTable s object description existing).extend (attributesOf rows)

/-- A table with the attributes of further rows, as far as it does not have them already. -/
def TableDefinition.join (t : TableDefinition) (rows : List Row) : TableDefinition :=
  t.extend ((attributesOf rows).filter (fun a => !(t.attributes.any (·.name == a.name))))

/-- The only name that a table made from rows can have twice is that of its key. -/
theorem nodup_names_tableOf {object description : String} {existing : Bool} {rows : List Row} :
    (tableOf s object description existing rows).names.Nodup ↔
      (existing = false → ∀ r ∈ rows, r.attributeName ≠ keyName object) := by
  have hnames : (tableOf s object description existing rows).names =
      (if existing then [] else [keyName object]) ++ distinct (rows.map Row.attributeName) := by
    rw [TableDefinition.names, tableOf, TableDefinition.extend, List.map_append,
      map_name_attributesOf]
    cases existing <;> rfl
  rw [hnames]
  cases existing with
  | true => simpa using nodup_distinct _
  | false =>
    have hkey : keyName object ∉ distinct (rows.map Row.attributeName) ↔
        ∀ r ∈ rows, r.attributeName ≠ keyName object := by
      rw [mem_distinct, List.mem_map]
      simp only [not_exists, not_and, ne_eq]
    simp only [Bool.false_eq_true, if_false, List.singleton_append, List.nodup_cons, hkey,
      and_iff_left (nodup_distinct (rows.map Row.attributeName)), forall_const]

/-- Joining rows to a table doubles no name. -/
theorem nodup_names_join {t : TableDefinition} {rows : List Row} :
    (t.join rows).names.Nodup ↔ t.names.Nodup := by
  have hnames : (t.join rows).names =
      t.names ++ ((attributesOf rows).map (·.name)).filter
        (fun name => !t.names.contains name) := by
    rw [TableDefinition.names, TableDefinition.join, TableDefinition.extend, List.map_append,
      List.filter_map]
    congr 3
    funext a
    simp [TableDefinition.names, List.any_eq]
  rw [hnames, map_name_attributesOf, List.nodup_append]
  refine ⟨fun h => h.1, fun h => ⟨h, (nodup_distinct _).filter _, ?_⟩⟩
  rintro name hname _ hnew rfl
  simp [hname] at hnew

theorem join_nil (t : TableDefinition) : t.join [] = t := by
  simp [TableDefinition.join, TableDefinition.extend, attributesOf, firsts]

/-! ## The tables of rows that name an object -/

theorem addRouted_record {first : TableDefinition} (h : first.object = m.record)
    (rest : List TableDefinition) (rows : List Row) :
    addRouted s m (first :: rest) (m.record, rows) = first.join rows :: rest := by
  simp [addRouted, h, TableDefinition.join]

theorem addRouted_of_ne {tables : List TableDefinition} {g : String × List Row}
    (h : ∀ t, tables.head? = some t → t.object = m.record → g.1 ≠ m.record) :
    addRouted s m tables g = tables ++ [tableOf s g.1 g.1 m.isStandard g.2] := by
  cases tables with
  | nil => rfl
  | cons first rest =>
    have hnot : (g.1 == m.record && first.object == m.record) = false := by
      have := h first rfl
      grind
    simp only [addRouted, hnot, Bool.false_eq_true, if_false, tableOf]

/-- Where the first table is that of the primary record, the rows that name the record join it, and
every other object gets a table. -/
theorem foldl_addRouted_record (groups : List (String × List Row)) :
    ∀ {first : TableDefinition} {rest : List TableDefinition}, first.object = m.record →
      (groups.map (·.1)).Nodup →
      groups.foldl (addRouted s m) (first :: rest) =
        first.join ((groups.lookup m.record).getD []) :: (rest ++
          (groups.filter (·.1 != m.record)).map
            (fun g => tableOf s g.1 g.1 m.isStandard g.2)) := by
  induction groups with
  | nil =>
    intro first rest _ _
    simp [join_nil]
  | cons g groups ih =>
    intro first rest hfirst hnodup
    obtain ⟨object, rows⟩ := g
    obtain ⟨hnew, hrest⟩ := List.nodup_cons.mp hnodup
    by_cases hobject : object = m.record
    · subst hobject
      have hnone : groups.lookup m.record = none := by
        rw [List.lookup_eq_none_iff]
        grind
      have hjoined : (first.join rows).object = m.record := hfirst
      rw [List.foldl_cons, addRouted_record hfirst, ih hjoined hrest, hnone]
      simp [join_nil]
    · rw [List.foldl_cons, addRouted_of_ne (by simp [hobject]), List.cons_append, ih hfirst hrest]
      have hne : (m.record == object) = false := by simpa using Ne.symm hobject
      simp [List.lookup_cons, hne, hobject]

/-- Where no table of the primary record comes first, every object gets a table. -/
theorem foldl_addRouted_apart (groups : List (String × List Row)) :
    ∀ {tables : List TableDefinition}, (groups.map (·.1)).Nodup →
      (∀ t, tables.head? = some t → t.object = m.record → m.record ∉ groups.map (·.1)) →
      groups.foldl (addRouted s m) tables =
        tables ++ groups.map (fun g => tableOf s g.1 g.1 m.isStandard g.2) := by
  induction groups with
  | nil =>
    intro tables _ _
    simp
  | cons g groups ih =>
    intro tables hnodup h
    obtain ⟨hnew, hrest⟩ := List.nodup_cons.mp hnodup
    have hne : ∀ t, tables.head? = some t → t.object = m.record → g.1 ≠ m.record := by
      intro t ht hrecord hg
      exact h t ht hrecord (hg ▸ List.mem_cons_self)
    rw [List.foldl_cons, addRouted_of_ne hne, ih hrest ?_, List.append_assoc]
    · rfl
    · intro t ht hrecord hmem
      cases tables with
      | nil =>
        obtain rfl := Option.some.inj ht
        have hname : g.1 = m.record := hrecord
        rw [← hname] at hmem
        exact hnew hmem
      | cons first rest => exact h t ht hrecord (List.mem_cons_of_mem _ hmem)

/-! ## The tables of a script -/

variable {rows : List Row}

/-- The tables of the relationships of detail rows. -/
def detailTables (s : Settings) (m : Metadata) (rows : List Row) : List TableDefinition :=
  (classes relatedObject (detailRows s m rows)).map
    (fun g => tableOf s g.1 (m.record ++ " - " ++ g.1) false g.2)

/-- The rows that name an object, by their objects. -/
def namedGroups (s : Settings) (m : Metadata) (rows : List Row) : List (String × List Row) :=
  classes namedObject (routedRows s m rows)

theorem nodup_map_fst_namedGroups : ((namedGroups s m rows).map (·.1)).Nodup := by
  rw [namedGroups, map_fst_classes]
  exact nodup_distinct _

theorem map_object_detailTables :
    (detailTables s m rows).map (·.object) =
      distinct ((detailRows s m rows).map relatedObject) := by
  rw [detailTables, List.map_map, ← map_fst_classes]
  rfl

/-- The table of the primary record before rows that name it join it. -/
def mainTable (s : Settings) (m : Metadata) (title : String) (rows : List Row) : TableDefinition :=
  tableOf s m.record (if title == "" then m.record else title) m.isStandard (headerRows s m rows)

theorem definitions_eq (title : String) :
    (definitions s m title rows).1 =
      (namedGroups s m rows).foldl (addRouted s m)
        ((if (headerRows s m rows).isEmpty && m.isStandard then [] else
          [mainTable s m title rows]) ++ detailTables s m rows) := rfl

theorem definitions_of_hasMain (h : HasMain s m rows) (title : String) :
    (definitions s m title rows).1 =
      (mainTable s m title rows).join (((namedGroups s m rows).lookup m.record).getD []) ::
        (detailTables s m rows ++ ((namedGroups s m rows).filter (·.1 != m.record)).map
          (fun g => tableOf s g.1 g.1 m.isStandard g.2)) := by
  have hmain : ((headerRows s m rows).isEmpty && m.isStandard) = false := by
    rcases h with hnew | hheader
    · simp [hnew]
    · simp [hheader]
  rw [definitions_eq, hmain]
  exact foldl_addRouted_record _ rfl nodup_map_fst_namedGroups

/-- The tables of relationships come first where the primary record has none. -/
theorem definitions_of_not_hasMain (h : ¬ HasMain s m rows) (hapart : Apart s m rows)
    (title : String) :
    (definitions s m title rows).1 =
      detailTables s m rows ++ (namedGroups s m rows).map
        (fun g => tableOf s g.1 g.1 m.isStandard g.2) := by
  have hmain : ((headerRows s m rows).isEmpty && m.isStandard) = true := by
    simpa [HasMain, and_comm] using h
  rw [definitions_eq, if_pos hmain, List.nil_append]
  refine foldl_addRouted_apart _ nodup_map_fst_namedGroups ?_
  intro t ht hrecord hmem
  have hdetail : t.object ∈ (detailTables s m rows).map (·.object) :=
    List.mem_map_of_mem (List.mem_of_head? ht)
  rw [map_object_detailTables, mem_distinct] at hdetail
  obtain ⟨r, hr, hobject⟩ := List.mem_map.mp hdetail
  rw [namedGroups, map_fst_classes, mem_distinct] at hmem
  obtain ⟨q, hq, hnamed⟩ := List.mem_map.mp hmem
  exact hapart.named r hr q hq (by rw [hobject, hrecord, hnamed])

theorem map_object_definitions (h : HasMain s m rows) (title : String) :
    (definitions s m title rows).1.map (·.object) =
      m.record :: (distinct ((detailRows s m rows).map relatedObject) ++
        (distinct ((routedRows s m rows).map namedObject)).filter (· != m.record)) := by
  have hnamed : distinct ((routedRows s m rows).map namedObject) =
      (namedGroups s m rows).map (·.1) := (map_fst_classes namedObject _).symm
  rw [definitions_of_hasMain h, List.map_cons, List.map_append, map_object_detailTables, hnamed,
    List.filter_map, List.map_map]
  rfl

/-- The tables of a record with a table of its own have different objects exactly where no
relationship bears the name of another table. -/
theorem nodup_objects_iff (h : HasMain s m rows) (title : String) :
    ((definitions s m title rows).1.map (·.object)).Nodup ↔ Apart s m rows := by
  rw [map_object_definitions h, List.nodup_cons, List.nodup_append]
  simp only [List.mem_append, mem_distinct, List.mem_map, List.mem_filter, bne_iff_ne, ne_eq]
  constructor
  · rintro ⟨hrecord, -, -, hapart⟩
    refine ⟨fun _ r hr heq => hrecord (Or.inl ⟨r, hr, heq⟩), fun r hr q hq heq => ?_⟩
    refine hapart _ ⟨r, hr, rfl⟩ _ ⟨⟨q, hq, rfl⟩, fun hq' => ?_⟩ heq
    exact hrecord (Or.inl ⟨r, hr, heq.trans hq'⟩)
  · intro hapart
    refine ⟨?_, nodup_distinct _, (nodup_distinct _).filter _, ?_⟩
    · rintro (⟨r, hr, heq⟩ | ⟨-, hne⟩)
      · exact hapart.record h r hr heq
      · exact hne True.intro
    · rintro _ ⟨r, hr, rfl⟩ _ ⟨⟨q, hq, rfl⟩, -⟩
      exact hapart.named r hr q hq

theorem nodup_objects (hapart : Apart s m rows) (title : String) :
    ((definitions s m title rows).1.map (·.object)).Nodup := by
  by_cases h : HasMain s m rows
  · exact (nodup_objects_iff h title).mpr hapart
  · rw [definitions_of_not_hasMain h hapart, List.map_append, map_object_detailTables,
      List.nodup_append]
    have hnamed : ((namedGroups s m rows).map
        (fun g => tableOf s g.1 g.1 m.isStandard g.2)).map (·.object) =
          distinct ((routedRows s m rows).map namedObject) := by
      rw [List.map_map, ← map_fst_classes]
      rfl
    rw [hnamed]
    refine ⟨nodup_distinct _, nodup_distinct _, fun a ha b hb => ?_⟩
    obtain ⟨r, hr, rfl⟩ := List.mem_map.mp (mem_distinct.mp ha)
    obtain ⟨q, hq, rfl⟩ := List.mem_map.mp (mem_distinct.mp hb)
    exact hapart.named r hr q hq

/-! ## Tables that are created -/

theorem createdObjects_foldl_addRouted (hstandard : m.isStandard = true)
    (groups : List (String × List Row)) :
    ∀ tables : List TableDefinition,
      createdObjects (groups.foldl (addRouted s m) tables) = createdObjects tables := by
  induction groups with
  | nil => exact fun _ => rfl
  | cons g groups ih =>
    intro tables
    rw [List.foldl_cons, ih]
    have hseparate : createdObjects (tables ++ [tableOf s g.1 g.1 m.isStandard g.2]) =
        createdObjects tables := by
      simp [createdObjects, tableOf, emptyTable, TableDefinition.extend, hstandard]
    cases tables with
    | nil => exact hseparate
    | cons first rest =>
      unfold addRouted
      dsimp only
      split
      · simp only [createdObjects, TableDefinition.extend, List.filter_cons]
        split <;> rfl
      · exact hseparate

theorem createdObjects_of_standard (hstandard : m.isStandard = true) (title : String) :
    createdObjects (definitions s m title rows).1 =
      distinct ((detailRows s m rows).map relatedObject) := by
  have hdetail : createdObjects (detailTables s m rows) =
      distinct ((detailRows s m rows).map relatedObject) := by
    rw [← map_object_detailTables, createdObjects, List.filter_eq_self.mpr]
    intro t ht
    obtain ⟨g, -, rfl⟩ := List.mem_map.mp ht
    rfl
  rw [definitions_eq, createdObjects_foldl_addRouted hstandard, ← hdetail]
  split
  · rfl
  · simp [createdObjects, mainTable, tableOf, emptyTable, TableDefinition.extend, hstandard]

/-- Every table of a new record is created, and has its key. -/
theorem mem_definitions_of_new (hnew : m.isStandard = false) {title : String} {t : TableDefinition}
    (ht : t ∈ (definitions s m title rows).1) :
    t.existing = false ∧ keyName t.object ∈ t.names := by
  rw [definitions_of_hasMain (Or.inl hnew)] at ht
  rcases List.mem_cons.mp ht with rfl | ht
  · simp [TableDefinition.join, mainTable, tableOf, emptyTable, TableDefinition.extend,
      TableDefinition.names, keyAttribute, hnew]
  · rcases List.mem_append.mp ht with ht | ht
    · obtain ⟨g, -, rfl⟩ := List.mem_map.mp ht
      simp [tableOf, emptyTable, TableDefinition.extend, TableDefinition.names, keyAttribute]
    · obtain ⟨g, -, rfl⟩ := List.mem_map.mp ht
      simp [tableOf, emptyTable, TableDefinition.extend, TableDefinition.names, keyAttribute, hnew]

theorem createdObjects_of_new (hnew : m.isStandard = false) (title : String) :
    createdObjects (definitions s m title rows).1 =
      (definitions s m title rows).1.map (·.object) := by
  rw [createdObjects, List.filter_eq_self.mpr]
  intro t ht
  rw [(mem_definitions_of_new hnew ht).1]
  rfl

/-! ## Attributes of all tables -/

theorem definedAttributes_eq (tables : List TableDefinition) :
    definedAttributes tables =
      tables.flatMap (fun t => t.names.map (fun name => (t.object, name))) := by
  simp only [definedAttributes, TableDefinition.names, List.map_map, Function.comp_def]

/-- Tables of different objects define an attribute twice only within a table. -/
theorem nodup_definedAttributes_iff {tables : List TableDefinition}
    (h : (tables.map (·.object)).Nodup) :
    (definedAttributes tables).Nodup ↔ ∀ t ∈ tables, t.names.Nodup := by
  rw [definedAttributes_eq, List.nodup_flatMap]
  have hnames : ∀ t : TableDefinition,
      (t.names.map (fun name => (t.object, name))).Nodup ↔ t.names.Nodup :=
    fun t => List.nodup_map_iff fun _ _ heq => (Prod.mk.inj heq).2
  simp only [hnames]
  refine and_iff_left ((List.pairwise_map.mp h).imp fun hne => ?_)
  intro k hk hk'
  obtain ⟨name, -, rfl⟩ := List.mem_map.mp hk
  obtain ⟨name', -, heq⟩ := List.mem_map.mp hk'
  exact hne (Prod.mk.inj heq).1.symm

/-- Tables that have their keys have different objects if they define no attribute twice. -/
theorem nodup_objects_of_nodup_definedAttributes {tables : List TableDefinition}
    (hkey : ∀ t ∈ tables, keyName t.object ∈ t.names) (h : (definedAttributes tables).Nodup) :
    (tables.map (·.object)).Nodup := by
  have hsublist : (tables.map (fun t => (t.object, keyName t.object))).Sublist
      (definedAttributes tables) := by
    rw [definedAttributes_eq]
    clear h
    induction tables with
    | nil => exact List.Sublist.slnil
    | cons t tables ih =>
      have ih := ih fun t' ht' => hkey t' (List.mem_cons_of_mem t ht')
      have hhead : [(t.object, keyName t.object)].Sublist
          (t.names.map (fun name => (t.object, name))) :=
        List.singleton_sublist.mpr (List.mem_map_of_mem (hkey t List.mem_cons_self))
      exact hhead.append ih
  have hkeys := hsublist.nodup h
  rw [List.Nodup, List.pairwise_map] at hkeys ⊢
  exact hkeys.imp fun hne heq => hne (by rw [heq])

theorem nodup_names_detailTables :
    (∀ t ∈ detailTables s m rows, t.names.Nodup) ↔
      ∀ r ∈ detailRows s m rows, r.attributeName ≠ keyName (relatedObject r) := by
  have hgroups := forall_mem_classes relatedObject (detailRows s m rows)
    (p := fun object r => r.attributeName ≠ keyName object)
  simp only [detailTables, List.forall_mem_map, nodup_names_tableOf, forall_const, hgroups]

theorem nodup_names_namedTables :
    (∀ t ∈ ((namedGroups s m rows).filter (·.1 != m.record)).map
        (fun g => tableOf s g.1 g.1 m.isStandard g.2), t.names.Nodup) ↔
      (m.isStandard = false → ∀ r ∈ routedRows s m rows, namedObject r ≠ m.record →
        r.attributeName ≠ keyName (namedObject r)) := by
  have hgroups := forall_mem_classes namedObject (routedRows s m rows)
    (p := fun object r => m.isStandard = false → object ≠ m.record →
      r.attributeName ≠ keyName object)
  simp only [List.forall_mem_map, List.mem_filter, bne_iff_ne, nodup_names_tableOf]
  constructor
  · intro h hnew r hr hne
    exact hgroups.mp (fun g hg r hr hnew hne => h g ⟨hg, hne⟩ hnew r hr) r hr hnew hne
  · intro h g ⟨hg, hne⟩ hnew r hr
    exact hgroups.mpr (fun r hr hnew hne => h hnew r hr hne) g hg r hr hnew hne

/-- The names of every table differ exactly where no row bears the name of a key. -/
theorem nodup_names_iff (hapart : Apart s m rows) (title : String) :
    (∀ t ∈ (definitions s m title rows).1, t.names.Nodup) ↔ KeysFree s m rows := by
  by_cases h : HasMain s m rows
  · have hmain (joined : List Row) : ((mainTable s m title rows).join joined).names.Nodup ↔
        (m.isStandard = false → ∀ r ∈ headerRows s m rows, r.attributeName ≠ keyName m.record) :=
      nodup_names_join.trans nodup_names_tableOf
    rw [definitions_of_hasMain h, List.forall_mem_cons, List.forall_mem_append, hmain,
      nodup_names_detailTables, nodup_names_namedTables]
    exact ⟨fun ⟨hheader, hdetail, hnamed⟩ => ⟨hdetail, hheader, hnamed⟩,
      fun h => ⟨h.header, h.detail, h.named⟩⟩
  · -- Only the tables of relationships are created.
    have hstandard : m.isStandard = true := by
      by_contra hnot
      exact h (Or.inl (by simpa using hnot))
    have hnamed : ∀ t ∈ (namedGroups s m rows).map
        (fun g => tableOf s g.1 g.1 m.isStandard g.2), t.names.Nodup := by
      simp only [List.forall_mem_map, nodup_names_tableOf, hstandard]
      exact fun _ _ h => by cases h
    rw [definitions_of_not_hasMain h hapart, List.forall_mem_append, nodup_names_detailTables,
      and_iff_left hnamed]
    exact ⟨fun hdetail => ⟨hdetail, by simp [hstandard], by simp [hstandard]⟩, fun h => h.detail⟩

/-- **Nothing is defined twice.** An object has one table that is created, unless the record is new
and a relationship bears the name of another table. Where no relationship does, no attribute is
defined twice, keys included, if and only if no row bears the name of the key of its table; and for
a new record it is defined twice wherever a relationship does. -/
theorem nodup_definitions (s : Settings) (m : Metadata) (title : String) (rows : List Row) :
    let tables := (definitions s m title rows).1
    ((createdObjects tables).Nodup ↔ m.isStandard = true ∨ Apart s m rows) ∧
      (Apart s m rows → ((definedAttributes tables).Nodup ↔ KeysFree s m rows)) ∧
      (m.isStandard = false → (definedAttributes tables).Nodup → Apart s m rows) := by
  intro tables
  refine ⟨?_, fun hapart => ?_, fun hnew h => ?_⟩
  · cases hstandard : m.isStandard with
    | true => simpa [tables, createdObjects_of_standard hstandard] using nodup_distinct _
    | false =>
      rw [createdObjects_of_new hstandard, nodup_objects_iff (Or.inl hstandard)]
      simp
  · exact (nodup_definedAttributes_iff (nodup_objects hapart title)).trans
      (nodup_names_iff hapart title)
  · refine (nodup_objects_iff (Or.inl hnew) title).mp ?_
    exact nodup_objects_of_nodup_definedAttributes
      (fun t ht => (mem_definitions_of_new hnew ht).2) h

/-- A new record with a header row, a detail row, a row that names another object, and a row that
names the record itself and bears the name of its key. -/
theorem nodup_definitions_new_record :
    let m : Metadata := { recordName := .text "zz_trip", isStandard := false }
    let rows : List Row :=
      [{ fieldName := .text "A", label := .text "A" },
       { fieldName := .text "B", label := .text "B", area := .detail,
         relationship := .text "legs" },
       { fieldName := .text "C", label := .text "C", objectName := .text "person" },
       { fieldName := .text "zz_tripid", label := .text "D", objectName := .text "zz_trip" }]
    let tables := (definitions .builtin m "" rows).1
    Apart .builtin m rows ∧ m.isStandard = false ∧ (definedAttributes tables).Nodup ∧
      (createdObjects tables).Nodup := by
  intro m rows tables
  have hapart : Apart .builtin m rows := ⟨fun _ => by decide +kernel, by decide +kernel⟩
  have hkeys : KeysFree .builtin m rows :=
    ⟨by decide +kernel, fun _ => by decide +kernel, fun _ => by decide +kernel⟩
  obtain ⟨hcreated, hdefined, -⟩ := nodup_definitions .builtin m "" rows
  exact ⟨hapart, rfl, (hdefined hapart).mpr hkeys, hcreated.mpr (Or.inr hapart)⟩

/-- Sound rows of a new record may bear the name of its key, or give a relationship and an object
one name. -/
theorem definitions_defined_twice :
    let m : Metadata := { recordName := .text "zz_trip", isStandard := false }
    let key : List Row := [{ fieldName := .text "zz_tripid", label := .text "Number" }]
    let legs : List Row :=
      [{ fieldName := .text "B", label := .text "B", area := .detail,
         relationship := .text "legs" },
       { fieldName := .text "C", label := .text "C", objectName := .text "LEGS" }]
    (Row.requireSound (some m) key = .ok () ∧
      ¬ (definedAttributes
        (definitions .builtin m "" (Row.resolveAll .builtin (some m) key)).1).Nodup) ∧
      Row.requireSound (some m) legs = .ok () ∧
      ¬ (createdObjects
        (definitions .builtin m "" (Row.resolveAll .builtin (some m) legs)).1).Nodup := by
  intro m key legs
  refine ⟨⟨Row.requireSound_eq_ok_iff.mpr (by decide +kernel), by decide +kernel⟩,
    Row.requireSound_eq_ok_iff.mpr (by decide +kernel), by decide +kernel⟩

end Formwork.Resource
