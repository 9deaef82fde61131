import Formwork.Proofs.Artifact.Naming
import Formwork.Proofs.Resource.Unique
import Formwork.Proofs.Schema.Collected

/-!
# One attribute in both scripts

The statements and the tables take the type and the flags of an attribute from a row, each by rules
of their own. Every attribute of a table is the key of the table or comes from a row that goes
there, and every statement comes from a row that goes to its object, so that an attribute with a
single row has the flags of that row in both scripts. The types differ where the row gives an
unknown one: the tables take it for a text, and the statements write it down.
-/
namespace Formwork

/-- The type is one of the vocabulary, or is left out, or spells the type of texts. -/
def StorageType.IsKnown (t : StorageType) : Prop :=
  ∀ word, t = .other word → word = "" ∨ word = "ALN"

namespace Schema.Statement

/-- The text of SQL that a statement gives for a column. -/
def value? (t : Statement) (column : String) : Option String :=
  (columns.zip t.values).lookup column

theorem value?_maxtype (t : Statement) :
    t.value? "MAXTYPE" = some ("'" ++ t.typeWord ++ "'") := rfl

theorem value?_required (t : Statement) :
    t.value? "REQUIRED" = some (bit t.row.dbRequired) := rfl

theorem value?_persistent (t : Statement) :
    t.value? "PERSISTENT" = some (bit t.row.persistent) := rfl

end Schema.Statement

/-- The attribute of a custom row is the given one, in the statements or in the tables. -/
structure Row.Targets (s : Settings) (m : Metadata) (k : String × String) (r : Row) : Prop where
  custom : r.isCustom s (some m) = true
  name : r.attributeName = k.2
  object : r.target m.recordName.words = k.1 ∨ r.definedObject? m = some k.1

/-- A sound row outside the list that is staged goes to the same object in the tables. -/
theorem Row.definedObject?_eq_target {m : Metadata} {r : Row} (h : r.problems = [])
    (hrecord : m.recordName.words ≠ "") (hlist : r.area ≠ .list)
    (htarget : r.target m.recordName.words ≠ "") :
    r.definedObject? m = some (r.target m.recordName.words) := by
  have hroutable : r.Routable :=
    { known := isKnownArea_of_problems h
      related := relationship_of_problems h
      object := by
        intro hobject hempty
        rw [target, if_pos hobject, hempty] at htarget
        exact htarget (Text.upper_eq_empty.mpr rfl) }
  cases hobject : r.objectName.truthy with
  | true => rw [definedObject?, target, if_pos hobject, if_pos hobject]
  | false =>
    rcases (Resource.target_ne_empty_iff hroutable hrecord hlist).mp htarget with
      hnamed | ⟨harea, hrelationship⟩
    · rw [hobject] at hnamed
      cases hnamed
    · rw [definedObject?, target, hobject, hrelationship, harea]
      rfl

namespace Resource

variable {s : Settings} {m : Metadata} {rows : List Row}

/-! ## Where attributes come from -/

/-- A row is one of those that define an attribute of an object. -/
structure GoesTo (s : Settings) (m : Metadata) (rows : List Row) (object : String) (r : Row) :
    Prop where
  mem : r ∈ rows
  defined : r.isDefined s m = true
  object : r.definedObject? m = some object

/-- Every attribute of tables is the key of its table or comes from a row that goes there. -/
def Given (s : Settings) (m : Metadata) (rows : List Row) (tables : List TableDefinition) : Prop :=
  ∀ t ∈ tables, ∀ a ∈ t.attributes,
    a = keyAttribute t.object ∨ ∃ r, GoesTo s m rows t.object r ∧ a = attributeOf r

theorem exists_row_of_mem_attributesOf {members : List Row} {a : AttributeDefinition}
    (h : a ∈ attributesOf members) : ∃ r ∈ members, a = attributeOf r := by
  obtain ⟨r, hr, rfl⟩ := List.mem_map.mp h
  exact ⟨r, (firsts_sublist _ _).subset hr, rfl⟩

theorem Given.append {tables tables' : List TableDefinition} (h : Given s m rows tables)
    (h' : Given s m rows tables') : Given s m rows (tables ++ tables') := by
  intro t ht
  exact (List.mem_append.mp ht).elim (h t) (h' t)

theorem given_tableOf {object : String} {members : List Row}
    (h : ∀ r ∈ members, GoesTo s m rows object r) (description : String) (existing : Bool) :
    Given s m rows [tableOf s object description existing members] := by
  intro t ht a ha
  obtain rfl := List.mem_singleton.mp ht
  rcases List.mem_append.mp ha with hkey | hrow
  · cases existing with
    | true => cases hkey
    | false => exact Or.inl (List.mem_singleton.mp hkey)
  · obtain ⟨r, hr, rfl⟩ := exists_row_of_mem_attributesOf hrow
    exact Or.inr ⟨r, h r hr, rfl⟩

theorem given_tables {groups : List (String × List Row)}
    (h : ∀ g ∈ groups, ∀ r ∈ g.2, GoesTo s m rows g.1 r) (description : String → String)
    (existing : Bool) :
    Given s m rows (groups.map (fun g => tableOf s g.1 (description g.1) existing g.2)) := by
  intro t ht
  obtain ⟨g, hg, rfl⟩ := List.mem_map.mp ht
  exact given_tableOf (h g hg) _ existing _ (List.mem_singleton_self _)

/-- What joins the table of the primary record comes from rows that go there. -/
theorem Given.join {first : TableDefinition} {rest : List TableDefinition} {members : List Row}
    (h : Given s m rows (first :: rest))
    (hmembers : ∀ r ∈ members, GoesTo s m rows first.object r) :
    Given s m rows (first.join members :: rest) := by
  intro t ht a ha
  rcases List.mem_cons.mp ht with rfl | ht
  · rcases List.mem_append.mp ha with hold | hnew
    · exact h first List.mem_cons_self a hold
    · obtain ⟨r, hr, rfl⟩ := exists_row_of_mem_attributesOf (List.mem_filter.mp hnew).1
      exact Or.inr ⟨r, hmembers r hr, rfl⟩
  · exact h t (List.mem_cons_of_mem first ht) a ha

/-- Rows that name an object keep it so that attributes come from rows. -/
theorem Given.addRouted {tables : List TableDefinition} (h : Given s m rows tables)
    {g : String × List Row} (hg : ∀ r ∈ g.2, GoesTo s m rows g.1 r) :
    Given s m rows (addRouted s m tables g) := by
  by_cases hjoin : ∃ first rest, tables = first :: rest ∧ first.object = m.record ∧ g.1 = m.record
  · obtain ⟨first, rest, rfl, hfirst, hobject⟩ := hjoin
    obtain ⟨object, members⟩ := g
    obtain rfl : object = m.record := hobject
    rw [addRouted_record hfirst]
    exact h.join (hfirst ▸ hg)
  · rw [addRouted_of_ne]
    · exact h.append (given_tableOf hg _ _)
    · intro first hhead hfirst hobject
      cases tables with
      | nil => cases hhead
      | cons t rest =>
        obtain rfl := Option.some.inj hhead
        exact hjoin ⟨t, rest, rfl, hfirst, hobject⟩

theorem Given.foldl_addRouted {groups : List (String × List Row)} {tables : List TableDefinition}
    (h : Given s m rows tables) (hgroups : ∀ g ∈ groups, ∀ r ∈ g.2, GoesTo s m rows g.1 r) :
    Given s m rows (groups.foldl (Resource.addRouted s m) tables) := by
  induction groups generalizing tables with
  | nil => exact h
  | cons g groups ih =>
    obtain ⟨hg, hgroups⟩ := List.forall_mem_cons.mp hgroups
    exact ih (h.addRouted hg) hgroups

theorem goesTo_of_mem_headerRows {r : Row} (h : r ∈ headerRows s m rows) :
    GoesTo s m rows m.record r := by
  obtain ⟨hr, hdefined, harea, hobject, hrelationship⟩ := mem_headerRows.mp h
  refine ⟨hr, hdefined, ?_⟩
  rw [Row.definedObject?, hobject, harea, hrelationship]
  rfl

theorem goesTo_of_mem_routedRows {r : Row} (h : r ∈ routedRows s m rows) :
    GoesTo s m rows (namedObject r) r := by
  obtain ⟨hr, hdefined, hobject⟩ := mem_routedRows.mp h
  refine ⟨hr, hdefined, ?_⟩
  rw [Row.definedObject?, if_pos hobject]
  rfl

theorem goesTo_of_mem_detailRows {r : Row} (h : r ∈ detailRows s m rows) :
    GoesTo s m rows (relatedObject r) r := by
  simp only [detailRows, List.mem_filter, Bool.and_eq_true, Bool.not_eq_true', beq_iff_eq] at h
  obtain ⟨⟨hr, hdefined⟩, ⟨hobject, harea⟩, hrelationship⟩ := h
  refine ⟨hr, hdefined, ?_⟩
  rw [Row.definedObject?, hobject, harea, hrelationship]
  rfl

theorem given_definitions (s : Settings) (m : Metadata) (title : String) (rows : List Row) :
    Given s m rows (definitions s m title rows).1 := by
  have hmain : Given s m rows (if (headerRows s m rows).isEmpty && m.isStandard then [] else
      [mainTable s m title rows]) := by
    split
    · exact fun t ht => absurd ht List.not_mem_nil
    · exact given_tableOf (fun r => goesTo_of_mem_headerRows) _ _
  have hdetail : Given s m rows (detailTables s m rows) :=
    given_tables ((forall_mem_classes relatedObject _).mpr fun r => goesTo_of_mem_detailRows) _ _
  rw [definitions_eq]
  exact (hmain.append hdetail).foldl_addRouted
    ((forall_mem_classes namedObject _).mpr fun r => goesTo_of_mem_routedRows)

/-! ## What statements and tables say of a row -/

/-- A statement and a definition give an attribute the same flags. -/
structure SameFlags (t : Schema.Statement) (a : AttributeDefinition) : Prop where
  required : t.value? "REQUIRED" = some (Schema.Statement.bit a.required)
  persistent : t.value? "PERSISTENT" = some (Schema.Statement.bit a.persistent)

/-- A statement and a definition give an attribute the same type, or it is a decimal there and an
amount here. -/
def SameType (t : Schema.Statement) (a : AttributeDefinition) : Prop :=
  t.value? "MAXTYPE" = some ("'" ++ a.maxtype ++ "'") ∨
    (t.value? "MAXTYPE" = some "'DECIMAL'" ∧ a.maxtype = "AMOUNT")

theorem sameFlags_attributeOf (t : Schema.Statement) : SameFlags t (attributeOf t.row) :=
  ⟨t.value?_required, t.value?_persistent⟩

theorem quoted_inj {a b : String} : "'" ++ a ++ "'" = "'" ++ b ++ "'" ↔ a = b := by
  rw [String.append_left_inj, String.append_right_inj]

/-- Apart from decimals, a type of the vocabulary keeps its word in the tables. -/
theorem attributeType_of_known {t : StorageType} (hdecimal : t ≠ .decimal)
    (hknown : ∀ word, t ≠ .other word) (name : String) : attributeType t name = t.word := by
  have hnot : (t == StorageType.decimal) = false := beq_eq_false_iff_ne.mpr hdecimal
  unfold attributeType
  rw [hnot, Bool.false_and, if_neg Bool.false_ne_true]
  cases t with
  | other word => exact absurd rfl (hknown word)
  | _ => rfl

theorem attributeType_decimal (name : String) :
    attributeType .decimal name = "DECIMAL" ∨ attributeType .decimal name = "AMOUNT" := by
  unfold attributeType
  split
  · exact Or.inr rfl
  · exact Or.inl rfl

theorem attributeType_other (word name : String) :
    attributeType (.other word) name = "ALN" := rfl

/-- The type of a row is the same in both scripts exactly where it is known. -/
theorem sameType_attributeOf (t : Schema.Statement) :
    SameType t (attributeOf t.row) ↔ t.row.maxType.IsKnown := by
  have hdecimal : "'DECIMAL'" = "'" ++ "DECIMAL" ++ "'" := rfl
  have hmaxtype : (attributeOf t.row).maxtype =
      attributeType t.row.maxType t.row.attributeName := rfl
  rw [SameType, Schema.Statement.value?_maxtype, Option.some_inj, Option.some_inj, hdecimal,
    quoted_inj, quoted_inj, hmaxtype, Schema.Statement.typeWord]
  generalize t.row.maxType = type
  by_cases hother : ∃ word, type = .other word
  · obtain ⟨word, rfl⟩ := hother
    rw [attributeType_other, StorageType.IsKnown]
    by_cases hempty : word = "" <;> simp [StorageType.word, hempty]
  have hknown : ∀ word, type ≠ .other word := fun word h => hother ⟨word, h⟩
  have hword : (if type.word == "" then "ALN" else type.word) = type.word := by
    cases type with
    | other word => exact absurd rfl (hknown word)
    | _ => rfl
  refine iff_of_true ?_ fun word h => absurd h (hknown word)
  rw [hword]
  by_cases hamount : type = .decimal
  · subst hamount
    exact (attributeType_decimal _).imp Eq.symm fun h => ⟨rfl, h⟩
  · exact Or.inl (attributeType_of_known hamount hknown _).symm

theorem maxtype_attributeOf_of_unknown {r : Row} (h : ¬ r.maxType.IsKnown) :
    (attributeOf r).maxtype = "ALN" := by
  have hother : ∃ word, r.maxType = .other word := by
    by_contra hnot
    exact h fun word hword => absurd ⟨word, hword⟩ hnot
  obtain ⟨word, hword⟩ := hother
  exact (congrArg (attributeType · _) hword).trans (attributeType_other word _)

/-- **Both scripts say what the row says.** A sound custom row outside the list whose object is
known, and that alone goes to its attribute, has a statement and a definition in a table. Every
statement and every definition of the attribute, where it does not bear the name of the generated
key, agree on whether it is required and whether it has a column. They agree on its type exactly if
the type of the row is known, a decimal that is named like money being an amount in the tables. An
unknown type is a text in the tables. -/
theorem statement_agrees (title : String) (hsound : Row.requireSound (some m) rows = .ok ())
    {r : Row} (hr : r ∈ rows) (hdefined : r.isDefined s m = true)
    (htarget : r.target m.recordName.words ≠ "")
    (honly : ∀ q ∈ rows, q.Targets s m (Schema.attributeKey m.recordName.words r) → q = r)
    (hkey : r.attributeName ≠ keyName (r.target m.recordName.words)) :
    let k := Schema.attributeKey m.recordName.words r
    let ts := (Schema.statements s m rows).1
    let tables := (definitions s m title rows).1
    (∃ t ∈ ts, t.key = k) ∧ k ∈ definedAttributes tables ∧
      ∀ t ∈ ts, t.key = k → ∀ table ∈ tables, ∀ a ∈ table.attributes, (table.object, a.name) = k →
        SameFlags t a ∧ (SameType t a ↔ r.maxType.IsKnown) ∧
          (¬ r.maxType.IsKnown → a.maxtype = "ALN") := by
  intro k ts tables
  obtain ⟨hlist, hcustom⟩ := Bool.and_eq_true_iff.mp hdefined
  have hobject := Row.definedObject?_eq_target (Row.problems_of_requireSound hsound hr)
    (Row.record_of_requireSound hsound) (bne_iff_ne.mp hlist) htarget
  refine ⟨?_, mem_definedAttributes hr hdefined hobject title, ?_⟩
  · exact List.mem_map.mp
      (Schema.mem_map_key_statements.mpr ⟨r, Schema.mem_stagedRows.mpr ⟨hr, hcustom, htarget⟩, rfl⟩)
  intro t ht htk table htable a ha hak
  -- The statement and the definition are those of rows for the attribute, and there is only one.
  have hstaged : t.row = r := by
    obtain ⟨i, hi, hcustom, -⟩ := Schema.exists_isFirst_of_mem_statements ht
    have hsame := Prod.mk.inj ((Schema.key_of_mem_statements ht).symm.trans htk)
    exact honly t.row (List.mem_of_getElem? hi)
      ⟨(Schema.isStaged_iff.mp hcustom).1, hsame.2, Or.inl hsame.1⟩
  have hgiven : a = attributeOf r := by
    obtain ⟨hthere, hname⟩ := Prod.mk.inj hak
    rcases given_definitions s m title rows table htable a ha with rfl | ⟨q, hq, rfl⟩
    · exact absurd (hname.symm.trans (congrArg keyName hthere)) hkey
    · have hcustom := (Bool.and_eq_true_iff.mp hq.defined).2
      rw [honly q hq.mem ⟨hcustom, hname, Or.inr (hq.object.trans (congrArg some hthere))⟩]
  rw [hgiven, ← hstaged]
  exact ⟨sameFlags_attributeOf t, sameType_attributeOf t, maxtype_attributeOf_of_unknown⟩

/-- A required price of the object that a detail row names, without a column. -/
theorem statement_agrees_price :
    let m : Metadata := { recordName := .text "SR" }
    let r : Row := { fieldName := .text "zz_price", label := .text "Price", area := .detail,
                     relationship := .text "LINES", objectName := .text "zz_line",
                     maxType := .decimal, dbRequired := true, persistent := false }
    let rows : List Row := [{ fieldName := .text "ZZ_PRICE", label := .text "Price" }, r]
    Row.requireSound (some m) rows = .ok () ∧
      ∃ t ∈ (Schema.statements .builtin m rows).1, t.key = ("ZZ_LINE", "ZZ_PRICE") ∧
        ∃ table ∈ (definitions .builtin m "" rows).1, ∃ a ∈ table.attributes,
          (table.object, a.name) = ("ZZ_LINE", "ZZ_PRICE") ∧ SameFlags t a ∧ SameType t a := by
  intro m r rows
  have hsound : Row.requireSound (some m) rows = .ok () :=
    Row.requireSound_eq_ok_iff.mpr (by decide +kernel)
  have hk : Schema.attributeKey m.recordName.words r = ("ZZ_LINE", "ZZ_PRICE") := by decide +kernel
  have honly : ∀ q ∈ rows,
      q.Targets .builtin m (Schema.attributeKey m.recordName.words r) → q = r := by
    intro q hq htargets
    rcases List.mem_cons.mp hq with rfl | hq
    · have hother := htargets.object
      rw [hk] at hother
      exact absurd hother (by decide +kernel)
    · exact List.mem_singleton.mp hq
  obtain ⟨⟨t, ht, hkey⟩, hdefined, hagree⟩ := statement_agrees "" hsound
    (List.mem_cons_of_mem _ (List.mem_singleton_self r)) (by decide +kernel) (by decide +kernel)
    honly (by decide +kernel)
  obtain ⟨table, htable, ha⟩ := List.mem_flatMap.mp hdefined
  obtain ⟨a, ha, hak⟩ := List.mem_map.mp ha
  obtain ⟨hflags, htype, -⟩ := hagree t ht hkey table htable a ha hak
  refine ⟨hsound, t, ht, hkey.trans hk, table, htable, a, ha, hak.trans hk, hflags, ?_⟩
  exact htype.mpr fun word h => by cases h

/-- An unknown type is written into the statement as it is, and is a text in the table. -/
theorem statement_differs_unknown_type :
    let m : Metadata := { recordName := .text "SR" }
    let r : Row := { fieldName := .text "ZZ_A", label := .text "A",
                     maxType := Vocabulary.read .aln (.text "VARCHAR") }
    Row.requireSound (some m) [r] = .ok () ∧
      ∃ t ∈ (Schema.statements .builtin m [r]).1, t.key = ("SR", "ZZ_A") ∧
        t.value? "MAXTYPE" = some "'VARCHAR'" ∧
        ∃ table ∈ (definitions .builtin m "" [r]).1, ∃ a ∈ table.attributes,
          (table.object, a.name) = ("SR", "ZZ_A") ∧ a.maxtype = "ALN" ∧ ¬ SameType t a := by
  intro m r
  refine ⟨Row.requireSound_eq_ok_iff.mpr (by decide +kernel), ?_⟩
  unfold SameType
  decide +kernel

end Resource

end Formwork
