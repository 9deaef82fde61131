import Formwork.Ingest
import Formwork.Proofs.Artifact.Complete
import Formwork.Proofs.Form.Conversion
import Formwork.Proofs.Form.Legible
import Formwork.Proofs.Form.Membership
import Formwork.Proofs.Trigger.Numbering

/-!
# Rows of ingested forms

Every document is ingested that has no integer of more digits than are read, and its rows are sound
except where the form itself leaves something out that rows need: the source of a block that has
details, or a length that is not negative. Everything else that a check of rows asks for holds of
all rows that a conversion makes.
-/
namespace Formwork

namespace Form

/-! ## Items that are read -/

/-- The length of an item that is read can be written. -/
theorem exceedsDigits_maximumLength {document : List Char} {items : List (Placed Item)}
    (h : itemsOf document = .ok items) {i : Item} (hi : i ∈ items.map (·.value)) :
    exceedsDigits i.maximumLength = false := by
  obtain ⟨elements, -, h⟩ := bind_eq_ok.mp h
  obtain ⟨placed, hplaced, rfl⟩ := List.mem_map.mp hi
  obtain ⟨p, -, hp⟩ := exists_of_mem_mapM h hplaced
  obtain ⟨item, hitem, hp⟩ := bind_eq_ok.mp hp
  obtain rfl := Except.ok.inj hp
  obtain ⟨maximumLength, hlength, hitem⟩ := bind_eq_ok.mp hitem
  obtain ⟨x, -, hitem⟩ := bind_eq_ok.mp hitem
  obtain ⟨y, -, hitem⟩ := bind_eq_ok.mp hitem
  obtain ⟨width, -, hitem⟩ := bind_eq_ok.mp hitem
  obtain ⟨height, -, hitem⟩ := bind_eq_ok.mp hitem
  obtain rfl := Except.ok.inj hitem
  exact exceedsDigits_of_integer (exceedsDigits_of_le (by decide)) hlength

def Module.Named (m : Module) : Prop :=
  ∀ b ∈ m.blocks, ∀ i ∈ b.items, i.name ≠ ""

/-- The lengths of the items of a form can be written. -/
def Module.Short (m : Module) : Prop :=
  ∀ b ∈ m.blocks, ∀ i ∈ b.items, exceedsDigits i.maximumLength = false

theorem named_of_read {text : String} {m : Module} (h : Module.read .builtin text = .ok m) :
    m.Named := by
  intro b hb i hi
  obtain ⟨items, -, hblocks, -⟩ := parts_read skippedBlocks_builtin rfl h
  rw [items_of_mem_blocksOf hblocks hb] at hi
  exact name_ne_of_mem_fieldItems (mem_fieldItems_of_mem_membersOf hi)

theorem short_of_read {text : String} {m : Module} (h : Module.read .builtin text = .ok m) :
    m.Short := by
  intro b hb i hi
  obtain ⟨items, hitems, hblocks, -⟩ := parts_read skippedBlocks_builtin rfl h
  rw [items_of_mem_blocksOf hblocks hb] at hi
  exact exceedsDigits_maximumLength hitems
    (List.mem_of_mem_filter (mem_fieldItems_of_mem_membersOf hi))

/-! ## Problems of converted rows -/

section Problems

variable {u : Surface} {source : String} {pairs : List (String × String)} {i : Item}

theorem firstText_ne_empty {texts : List String} {text : String} (h : text ∈ texts)
    (hne : text ≠ "") : firstText texts ≠ "" := by
  unfold firstText
  cases hfind : texts.find? (· != "") with
  | none => exact absurd (List.find?_eq_none.mp hfind text h) (by simpa using hne)
  | some found => simpa using List.find?_some hfind

theorem truthy_text {text : String} (h : text ≠ "") : (Value.text text).truthy = true := by
  simpa [Value.truthy] using h

theorem truthy_label_rowOf (h : i.name ≠ "") : (rowOf u source pairs i).label.truthy = true := by
  -- The name is the last resort of every label.
  have hlast (texts : List String) : firstText (texts ++ [i.name]) ≠ "" :=
    firstText_ne_empty (by simp) h
  simp only [rowOf]
  split
  · exact truthy_text (hlast [i.label, i.prompt])
  · exact truthy_text (hlast [i.prompt])

theorem area_rowOf : (rowOf u source pairs i).area =
    if u.inHeader i then .header else .detail := rfl

/-- A row of an item has no problem but that its block has no source or its length is negative. -/
theorem affects_rowOf_iff (h : i.name ≠ "") {p : RowProblem} :
    p.Affects (rowOf u source pairs i) ↔
      (p = .noRelationship ∧ u.inHeader i = false ∧ source = "") ∨
        (p = .negativeLength ∧ i.maximumLength < 0) := by
  cases p with
  | noLabel => simp [RowProblem.Affects, truthy_label_rowOf h]
  | noName => simp [RowProblem.Affects, rowOf, truthy_text h]
  | noArea => cases hheader : u.inHeader i <;> simp [RowProblem.Affects, area_rowOf, hheader]
  | unknownArea area =>
    cases hheader : u.inHeader i <;> simp [RowProblem.Affects, area_rowOf, hheader]
  | noRelationship =>
    cases hheader : u.inHeader i <;> simp [RowProblem.Affects, rowOf, hheader, Value.truthy]
  | negativeScale => simp [RowProblem.Affects, rowOf]
  | negativeLength =>
    by_cases hzero : i.maximumLength = 0 <;> simp [RowProblem.Affects, rowOf, hzero]

/-- The list repeats a row with no other problems. -/
theorem affects_of_affects_listRow {r : Row} {p : RowProblem} (h : p.Affects (listRow r)) :
    p.Affects r := by
  cases p with
  | noArea => cases h
  | unknownArea area => cases h.1
  | noRelationship => cases h.1
  | _ => exact h

end Problems

/-! ## Lengths of converted rows -/

theorem isShort_rowOf {u : Surface} {source : String} {pairs : List (String × String)} {i : Item}
    (h : exceedsDigits i.maximumLength = false) : (rowOf u source pairs i).IsShort := by
  have hlength : (rowOf u source pairs i).length = 100 ∨
      (rowOf u source pairs i).length = i.maximumLength := by
    rw [rowOf]
    dsimp only
    split
    · exact Or.inl rfl
    · exact Or.inr rfl
  refine ⟨?_, exceedsDigits_of_le (by decide : (0 : Int).natAbs ≤ 4000)⟩
  rcases hlength with hdefault | hgiven
  · rw [hdefault]
    exact exceedsDigits_of_le (by decide)
  · rw [hgiven]
    exact h

theorem Rules.isShort_of_mem_conversion {c : Rules} {m : Module} (hshort : m.Short) {r : Row}
    (hr : r ∈ (c.conversion m).rows) : r.IsShort := by
  have hfield : ∀ q ∈ c.fieldRows m, q.IsShort := by
    intro q hq
    obtain ⟨b, hb, i, hi, hq⟩ := mem_fieldRows.mp hq
    obtain ⟨-, -, rfl⟩ := mem_rowsOfItem.mp hq
    exact isShort_rowOf (hshort b (mem_blocks.mp hb).1 i hi)
  rcases List.mem_append.mp hr with hr | hlisted
  · exact hfield r hr
  · obtain ⟨q, hq, rfl⟩ := List.mem_map.mp hlisted
    exact hfield q (List.mem_of_mem_filter (mem_of_mem_takeCount hq))

/-! ## Problems of a form -/

/-- Everything that rows need from a form is there: the length of an item that has a row is not
negative, and where the row is a detail, the block has a source. -/
def Complete (c : Rules) (m : Module) : Prop :=
  ∀ b ∈ c.blocks m, ∀ i ∈ b.items, Selected c.skippedSources (c.surface m) b i →
    ¬ IsDescription b i →
      0 ≤ i.maximumLength ∧ ((c.surface m).inHeader i = true ∨ b.source ≠ "")

namespace Rules

variable {c : Rules} {m : Module}

theorem exists_affects_of_mem_conversion {r : Row} {p : RowProblem}
    (hr : r ∈ (c.conversion m).rows) (hp : p.Affects r) :
    ∃ q ∈ c.fieldRows m, p.Affects q := by
  rcases List.mem_append.mp hr with hfield | hlisted
  · exact ⟨r, hfield, hp⟩
  · obtain ⟨q, hq, rfl⟩ := List.mem_map.mp hlisted
    exact ⟨q, List.mem_of_mem_filter (mem_of_mem_takeCount hq), affects_of_affects_listRow hp⟩

variable (hnamed : m.Named)
include hnamed

theorem affects_fieldRows_iff {p : RowProblem} : (∃ r ∈ c.fieldRows m, p.Affects r) ↔
    ∃ b ∈ c.blocks m, ∃ i ∈ b.items, Selected c.skippedSources (c.surface m) b i ∧
      ¬ IsDescription b i ∧
        ((p = .noRelationship ∧ (c.surface m).inHeader i = false ∧ b.source = "") ∨
          (p = .negativeLength ∧ i.maximumLength < 0)) := by
  have hname : ∀ b ∈ c.blocks m, ∀ i ∈ b.items, i.name ≠ "" :=
    fun b hb => hnamed b (mem_blocks.mp hb).1
  constructor
  · rintro ⟨r, hr, hp⟩
    obtain ⟨b, hb, i, hi, hr⟩ := mem_fieldRows.mp hr
    obtain ⟨hselected, hfree, rfl⟩ := mem_rowsOfItem.mp hr
    exact ⟨b, hb, i, hi, hselected, hfree, (affects_rowOf_iff (hname b hb i hi)).mp hp⟩
  · rintro ⟨b, hb, i, hi, hselected, hfree, hp⟩
    have hrow := mem_rowsOfItem.mpr ⟨hselected, hfree, rfl⟩
    exact ⟨_, mem_fieldRows.mpr ⟨b, hb, i, hi, hrow⟩,
      (affects_rowOf_iff (hname b hb i hi)).mpr hp⟩

theorem problems_conversion {r : Row} {p : RowProblem} (hr : r ∈ (c.conversion m).rows)
    (hp : p ∈ r.problems) : p = .noRelationship ∨ p = .negativeLength := by
  have hfield := exists_affects_of_mem_conversion hr (Row.mem_problems.mp hp)
  obtain ⟨_, _, _, _, _, _, hkind⟩ := (affects_fieldRows_iff hnamed).mp hfield
  exact hkind.imp And.left And.left

theorem sound_conversion_iff :
    (∀ r ∈ (c.conversion m).rows, r.problems = []) ↔ Complete c m := by
  have hfields : (∀ r ∈ (c.conversion m).rows, r.problems = []) ↔
      ∀ p : RowProblem, ¬ ∃ r ∈ c.fieldRows m, p.Affects r := by
    simp only [List.eq_nil_iff_forall_not_mem, Row.mem_problems]
    constructor
    · rintro h p ⟨r, hr, hp⟩
      exact h r (List.mem_append_left _ hr) p hp
    · exact fun h r hr p hp => h p (exists_affects_of_mem_conversion hr hp)
  simp only [hfields, affects_fieldRows_iff hnamed]
  constructor
  · intro h b hb i hi hselected hfree
    refine ⟨Int.not_lt.mp fun hlength => ?_, ?_⟩
    · exact h .negativeLength ⟨b, hb, i, hi, hselected, hfree, Or.inr ⟨rfl, hlength⟩⟩
    · rw [← Bool.not_eq_false, ← not_and_or]
      exact fun hdetail =>
        h .noRelationship ⟨b, hb, i, hi, hselected, hfree, Or.inl ⟨rfl, hdetail⟩⟩
  · rintro h p ⟨b, hb, i, hi, hselected, hfree, hp⟩
    obtain ⟨hlength, hsource⟩ := h b hb i hi hselected hfree
    rcases hp with ⟨-, hheader, hempty⟩ | ⟨-, hnegative⟩
    · simp [hheader, hempty] at hsource
    · exact absurd hnegative (Int.not_lt.mpr hlength)

end Rules

end Form

namespace Ingest

/-- With the settings that are built in a form that is read is ingested if its programs can be
decoded. -/
theorem okIff_ofText (showExternal : Bool) {text : String} {m : Form.Module}
    (hm : Form.Module.read .builtin text = .ok m) :
    OkIff (ofText .builtin showExternal text)
      (∀ x ∈ Trigger.sources m, Text.Legible x.trigger.body.toList) := by
  have hspec : OkIff (Spec.FormSpec.ofModule .builtin m)
      (∀ x ∈ Trigger.sources m, Text.Legible x.trigger.body.toList) :=
    (Trigger.okIff_ofModule m).bind_ok _
  simp only [ofText, hm, ok_bind, Form.Rules.convert_eq Form.Rules.readFrom_builtin m]
  exact hspec.bind_ok _

theorem parts_ofText {showExternal : Bool} {text : String} {m : Form.Module} {g : Ingest}
    (hm : Form.Module.read .builtin text = .ok m)
    (h : ofText .builtin showExternal text = .ok g) :
    g.form = m ∧ g.rows = (Form.Rules.builtin.conversion m).rows := by
  simp only [ofText, hm, ok_bind, Form.Rules.convert_eq Form.Rules.readFrom_builtin m] at h
  obtain ⟨spec, -, h⟩ := bind_eq_ok.mp h
  obtain rfl := Except.ok.inj h
  exact ⟨rfl, rfl⟩

/-- **Rows of an ingested form are sound where the form is complete.** With the settings that are
built in a document is read unless an integer in it has more digits than are read. Then it is
converted, and it is ingested unless a program in it has a decimal reference of more digits. No row
has any problem but that it is a detail of a block without source or that its length is negative, no
row has a problem exactly where the form is complete, and exactly then an application can be made
from the rows, if there are any and its record has a name. -/
theorem rows_sound_iff_complete (showExternal : Bool) (text : String) :
    OkIff (Form.Module.read .builtin text) (Form.Legible Form.skippedBuiltin text.toList) ∧
    ∀ m, Form.Module.read .builtin text = .ok m →
      OkIff (ofText .builtin showExternal text)
        (∀ x ∈ Trigger.sources m, Text.Legible x.trigger.body.toList) ∧
      ∃ conversion, m.convert .builtin = .ok conversion ∧
        (∀ g, ofText .builtin showExternal text = .ok g → g.form = m ∧ g.rows = conversion.rows) ∧
        (∀ r ∈ conversion.rows, ∀ p ∈ r.problems, p = .noRelationship ∨ p = .negativeLength) ∧
        ((∀ r ∈ conversion.rows, r.problems = []) ↔ Form.Complete .builtin m) ∧
        ∀ i : ApplicationInputs, i.rows = conversion.rows →
          ((∃ bundle, i.generate .builtin = .ok bundle) ↔
            (∃ c ∈ i.metadata.recordName.words.toList, Text.isBlank c = false) ∧
              conversion.rows ≠ [] ∧ Form.Complete .builtin m) := by
  refine ⟨Form.okIff_read_builtin text, fun m hm => ⟨okIff_ofText showExternal hm, ?_⟩⟩
  have hnamed := Form.named_of_read hm
  have hsound := Form.Rules.sound_conversion_iff (c := .builtin) hnamed
  refine ⟨_, Form.Rules.convert_eq Form.Rules.readFrom_builtin m, fun g hg => parts_ofText hm hg,
    fun r hr p hp => Form.Rules.problems_conversion hnamed hr hp, hsound, fun i hi => ?_⟩
  have hshort : ∀ r ∈ i.rows, r.IsShort := by
    intro r hr
    rw [hi] at hr
    exact Form.Rules.isShort_of_mem_conversion (Form.short_of_read hm) hr
  rw [ApplicationInputs.exists_generate_iff Settings.wellTyped_builtin hshort, ← hsound,
    ApplicationInputs.IsBlocked, hi]
  simp only [List.eq_nil_iff_forall_not_mem (l := Row.problems _), Row.mem_problems, not_or,
    not_exists, not_and, not_forall, Bool.not_eq_true, exists_prop]

/-- A visible item of a block without source is a detail without relationship. -/
theorem rows_of_block_without_source :
    let text := "<Block Name=\"B\"/><Item Name=\"B\" ItemType=\"i\" Canvas=\"CANVAS_TAB\"/>"
    ∃ g, ofText .builtin false text = .ok g ∧ ∃ r ∈ g.rows, r.problems = [.noRelationship] := by
  intro text
  obtain ⟨m, hm, hshown⟩ := map_toOption_eq_some.mp
    (show (Form.Module.read .builtin text).toOption.map (fun m =>
        ((Form.Rules.builtin.conversion m).rows.map Row.problems, (Trigger.sources m).length)) =
      some ([[.noRelationship], []], 0) by decide +kernel)
  obtain ⟨hall, hsources⟩ := Prod.mk.inj hshown
  obtain ⟨g, hg⟩ := (okIff_ofText false hm).ok (by simp [List.length_eq_zero_iff.mp hsources])
  have hmem : [RowProblem.noRelationship] ∈ g.rows.map Row.problems := by
    rw [(parts_ofText hm hg).2, hall]
    exact List.mem_cons_self
  obtain ⟨r, hr, hp⟩ := List.mem_map.mp hmem
  exact ⟨g, hg, r, hr, hp⟩

end Ingest

end Formwork
