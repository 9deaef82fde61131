import Formwork.Proofs.Form.Descriptions

/-!
# Items and their rows

A conversion gives one row to every item that is to be seen, except that a description has no row of
its own: the row of the item that takes it names it. Descriptions are paired before any item is left
out. So a description is lost where the item that takes it has no row, because it is hidden or
because it is a detail of a source that is skipped.
-/
namespace Formwork.Form

/-! ## What the settings say -/

/-- What the settings say about conversions. -/
structure Rules where
  skippedBlocks : List String
  skippedSources : List String
  /-- The canvases that are visible without tab pages. -/
  configured : List String
  header : Value
  /-- How many fields the list repeats. -/
  count : Int

namespace Rules

variable {s : Settings} {c : Rules}

structure ReadFrom (c : Rules) (s : Settings) : Prop where
  skippedBlocks : s.names "legacy" "convert_skip_blocks" = .ok c.skippedBlocks
  skippedSources : s.names "legacy" "skip_relationships" = .ok c.skippedSources
  configured : s.names "legacy" "visible_canvases" = .ok c.configured
  header : s.setting "legacy" "header_canvas" = c.header
  count : (s.setting "legacy" "max_list_fields").integer = .ok c.count

/-- The rules of the settings that are built in. -/
def builtin : Rules where
  skippedBlocks := ["TOOL_BUTTON", "HEAD_BLOCK"]
  skippedSources := ["PCS1005"]
  configured := ["CANVAS_BODY", "CANVAS_TAB"]
  header := .text "CANVAS_BODY"
  count := 10

theorem readFrom_builtin : builtin.ReadFrom .builtin := ⟨rfl, rfl, rfl, rfl, rfl⟩

def surface (c : Rules) (m : Module) : Surface := .of c.configured c.header m

def blocks (c : Rules) (m : Module) : List Block :=
  m.blocks.filter (fun b => !c.skippedBlocks.contains b.name)

theorem mem_blocks {m : Module} {b : Block} :
    b ∈ c.blocks m ↔ b ∈ m.blocks ∧ b.name ∉ c.skippedBlocks := by
  simp [blocks]

end Rules

/-! ## The rows of an item -/

section Item

variable {skipped : List String} {u : Surface} {b : Block} {i x : Item} {r : Row}

/-- An item that can be seen, and is no detail of a source that is skipped. -/
def Selected (skipped : List String) (u : Surface) (b : Block) (i : Item) : Prop :=
  u.shows i = true ∧ (u.inHeader i = true ∨ b.source ∉ skipped)

/-- The name of an item is that of a description. -/
def IsDescription (b : Block) (i : Item) : Prop :=
  ∃ k, (k, i.name) ∈ descriptionPairs b.items

def hasRow (skipped : List String) (u : Surface) (b : Block) (i : Item) : Bool :=
  u.shows i && !(descriptionPairs b.items).any (fun (_, description) => description == i.name) &&
    (u.inHeader i || !skipped.contains b.source)

theorem isDescription_iff_any : IsDescription b i ↔
    (descriptionPairs b.items).any (fun (_, description) => description == i.name) = true := by
  simp [IsDescription]

theorem hasRow_iff : hasRow skipped u b i = true ↔
    Selected skipped u b i ∧ ¬ IsDescription b i := by
  simp only [hasRow, Selected, isDescription_iff_any, Bool.and_eq_true, Bool.or_eq_true,
    Bool.not_eq_true', Bool.not_eq_true, List.contains_eq_mem, decide_eq_false_iff_not,
    and_right_comm]

/-- The rows of an item of a block, one or none. -/
def rowsOfItem (skipped : List String) (u : Surface) (b : Block) (i : Item) : List Row :=
  if hasRow skipped u b i then [rowOf u b.source (descriptionPairs b.items) i] else []

theorem rowsOfBlock_eq_flatMap (skipped : List String) (u : Surface) (b : Block) :
    rowsOfBlock skipped u b = b.items.flatMap (rowsOfItem skipped u b) :=
  map_filter_eq_flatMap (hasRow skipped u b) (rowOf u b.source (descriptionPairs b.items)) b.items

theorem rowsOfItem_eq_singleton (h : Selected skipped u b i) (hfree : ¬ IsDescription b i) :
    rowsOfItem skipped u b i = [rowOf u b.source (descriptionPairs b.items) i] :=
  if_pos (hasRow_iff.mpr ⟨h, hfree⟩)

theorem mem_rowsOfItem : r ∈ rowsOfItem skipped u b i ↔
    Selected skipped u b i ∧ ¬ IsDescription b i ∧
      r = rowOf u b.source (descriptionPairs b.items) i := by
  rw [← and_assoc, ← hasRow_iff, rowsOfItem]
  split <;> simp_all

theorem area_rowOf_ne_list (source : String) (pairs : List (String × String)) :
    (rowOf u source pairs i).area ≠ .list := by
  simp only [rowOf]
  split <;> exact nofun

theorem descDataattribute_rowOf {pairs : List (String × String)} (source : String) {d : String}
    (h : pairs.lookup i.name = some d) :
    (rowOf u source pairs i).descDataattribute = .text d := by
  simp [rowOf, h]

end Item

/-! ## The rows of a form -/

namespace Rules

variable {s : Settings} {c : Rules}

/-- The rows of a form without those of the list. -/
def fieldRows (c : Rules) (m : Module) : List Row :=
  (c.blocks m).flatMap (fun b => b.items.flatMap (rowsOfItem c.skippedSources (c.surface m) b))

def listed (c : Rules) (m : Module) : List Row :=
  takeCount c.count
    ((c.fieldRows m).filter (fun r => r.control != .pushButton && r.control != .staticText))

def conversion (c : Rules) (m : Module) : Conversion where
  rows := c.fieldRows m ++ (c.listed m).map listRow
  name := m.name
  title := if m.title == "" then m.name else m.title

theorem convert_eq (h : c.ReadFrom s) (m : Module) : m.convert s = .ok (c.conversion m) := by
  obtain ⟨hblocks, hsources, hconfigured, hheader, hcount⟩ := h
  have hrows : rowsOfBlock c.skippedSources (c.surface m) =
      fun b => b.items.flatMap (rowsOfItem c.skippedSources (c.surface m) b) :=
    funext (rowsOfBlock_eq_flatMap _ _)
  unfold surface at hrows
  simp only [Module.convert, hblocks, hsources, hconfigured, hheader, hcount, hrows, Bind.bind,
    Except.bind]
  rfl

/-- Only what the settings say decides whether there is a conversion. -/
theorem exists_convert_iff (s : Settings) (m : Module) :
    (∃ result, m.convert s = .ok result) ↔ ∃ c : Rules, c.ReadFrom s := by
  constructor
  · rintro ⟨result, h⟩
    unfold Module.convert at h
    simp only [Bind.bind, Except.bind] at h
    split at h
    · cases h
    · next blocks hblocks =>
      split at h
      · cases h
      · next sources hsources =>
        split at h
        · cases h
        · next configured hconfigured =>
          split at h
          · cases h
          · next count hcount =>
            exact ⟨⟨blocks, sources, configured, s.setting "legacy" "header_canvas", count⟩,
              hblocks, hsources, hconfigured, rfl, hcount⟩
  · rintro ⟨c, h⟩
    exact ⟨_, convert_eq h m⟩

theorem mem_of_mem_takeCount {α : Type} {count : Int} {l : List α} {a : α}
    (h : a ∈ takeCount count l) : a ∈ l := by
  unfold takeCount at h
  split at h <;> exact List.mem_of_mem_take h

theorem mem_fieldRows {m : Module} {r : Row} : r ∈ c.fieldRows m ↔
    ∃ b ∈ c.blocks m, ∃ i ∈ b.items, r ∈ rowsOfItem c.skippedSources (c.surface m) b i := by
  simp only [fieldRows, List.mem_flatMap]

theorem filter_rows_conversion (c : Rules) (m : Module) :
    (c.conversion m).rows.filter (fun r => r.area != .list) = c.fieldRows m := by
  have hfields : (c.fieldRows m).filter (fun r => r.area != .list) = c.fieldRows m := by
    refine List.filter_eq_self.mpr fun r hr => ?_
    obtain ⟨b, -, i, -, hr⟩ := mem_fieldRows.mp hr
    obtain ⟨-, -, rfl⟩ := mem_rowsOfItem.mp hr
    exact bne_iff_ne.mpr (area_rowOf_ne_list _ _)
  have hlisted : ((c.listed m).map listRow).filter (fun r => r.area != .list) = [] := by
    rw [List.filter_eq_nil_iff, List.forall_mem_map]
    intro r _
    simp [listRow]
  rw [conversion, List.filter_append, hfields, hlisted, List.append_nil]

end Rules

/-! ## Items that have a row -/

section Represented

variable {skipped : List String} {u : Surface} {b : Block} {i x : Item}

/-- An item has exactly one row, which bears its name, or is the description in a row of its
block. -/
def Represented (skipped : List String) (u : Surface) (b : Block) (i : Item) : Prop :=
  (∃ r, rowsOfItem skipped u b i = [r] ∧ r.fieldName = .text i.name ∧ r.area ≠ .list) ∨
    ∃ o ∈ b.items, ∃ r ∈ rowsOfItem skipped u b o,
      r.area ≠ .list ∧ r.descDataattribute = .text i.name

theorem represented_of_not_isDescription (h : Selected skipped u b i)
    (hfree : ¬ IsDescription b i) : Represented skipped u b i :=
  Or.inl ⟨_, rowsOfItem_eq_singleton h hfree, rfl, area_rowOf_ne_list _ _⟩

/-- A description is represented by the item that takes it, where that has a row. -/
theorem represented_of_takes {y : Item} (htakes : Takes b.items x y) (hname : y.name = i.name)
    (hx : Selected skipped u b x) (hfree : ¬ IsDescription b x) : Represented skipped u b i := by
  obtain ⟨hneighbours, -, -, hpair⟩ := htakes
  have hlookup : (descriptionPairs b.items).lookup x.name = some i.name :=
    lookup_of_mem (nodup_map_fst_descriptionPairs b.items) (hname ▸ hpair)
  have hrow := mem_rowsOfItem.mpr ⟨hx, hfree, rfl⟩
  exact Or.inr ⟨x, hneighbours.mem (by simp), _, hrow, area_rowOf_ne_list _ _,
    descDataattribute_rowOf _ hlookup⟩

variable (hnodup : (b.items.map (·.name)).Nodup)
include hnodup

theorem exists_takes_of_represented (hname : i.name ≠ "") (hi : i ∈ b.items)
    (hdescription : IsDescription b i) (h : Represented skipped u b i) :
    ∃ o, Takes b.items o i ∧ Selected skipped u b o := by
  rcases h with ⟨r, hr, -⟩ | ⟨o, ho, r, hr, -, hdesc⟩
  · have hfree := (mem_rowsOfItem.mp (hr ▸ List.mem_singleton_self r)).2.1
    exact absurd hdescription hfree
  · obtain ⟨hselected, -, rfl⟩ := mem_rowsOfItem.mp hr
    cases hlookup : (descriptionPairs b.items).lookup o.name with
    | none =>
      simp only [rowOf, hlookup, Option.getD_none] at hdesc
      exact absurd (Value.text.inj hdesc).symm hname
    | some d =>
      rw [descDataattribute_rowOf _ hlookup] at hdesc
      rw [Value.text.inj hdesc] at hlookup
      obtain ⟨x, hx, hxo⟩ :=
        exists_takes_of_nodup hnodup hi (mem_of_lookup_eq_some hlookup)
      obtain rfl : x = o :=
        List.inj_on_of_nodup_map hnodup (hx.1.mem (by simp)) ho hxo
      exact ⟨x, hx, hselected⟩

theorem represented_iff (hname : i.name ≠ "") (hi : i ∈ b.items) (h : Selected skipped u b i) :
    Represented skipped u b i ↔ ∀ x, Takes b.items x i →
      x.visible = true ∧ (u.inHeader x = true ∨ b.source ∉ skipped) := by
  constructor
  · intro hrepresented x hx
    obtain ⟨o, ho, hselected⟩ :=
      exists_takes_of_represented hnodup hname hi ⟨_, hx.2.2.2⟩ hrepresented
    obtain rfl : o = x := eq_of_infix_of_infix (List.Nodup.of_map _ hnodup) ho.1 hx.1
    obtain ⟨hshows, hsource⟩ := hselected
    rw [Surface.shows, Bool.and_eq_true] at hshows
    exact ⟨hshows.2, hsource⟩
  · intro htaken
    by_cases hdescription : IsDescription b i
    · obtain ⟨k, hk⟩ := hdescription
      obtain ⟨x, hx, -⟩ := exists_takes_of_nodup hnodup hi hk
      obtain ⟨hvisible, hsource⟩ := htaken x hx
      obtain ⟨-, hdescribes, hfree⟩ := (takes_iff hnodup hx.1).mp hx
      -- An item stands on the canvas of its description, which is visible.
      have hcanvas : x.canvas = i.canvas := by
        simp only [describes, Bool.and_eq_true, beq_iff_eq] at hdescribes
        exact hdescribes.2
      have hshows : u.shows x = true := by
        simpa [Surface.shows, hcanvas, hvisible] using
          (Bool.and_eq_true_iff.mp h.1).1
      refine represented_of_takes hx rfl ⟨hshows, hsource⟩ ?_
      rintro ⟨k, hk⟩
      obtain ⟨w, hw, -⟩ := exists_takes_of_nodup hnodup (hx.1.mem (by simp)) hk
      exact hfree w hw
    · exact represented_of_not_isDescription h hdescription

end Represented

/-- **Visible items are represented.** Settings that can be read give a conversion, whose rows
outside the list are those of the items of the converted blocks. There an item that is to be seen
has a row of its own or is the description in a row of its block, if the items that take its name as
a description have rows. With different names in a block it is so exactly where the item that takes
it is visible itself and no detail of a source that is skipped. -/
theorem convert_represents {s : Settings} {c : Rules} (h : c.ReadFrom s) (m : Module) :
    ∃ result, m.convert s = .ok result ∧
      result.rows.filter (fun r => r.area != .list) = (c.blocks m).flatMap (fun b =>
        b.items.flatMap (rowsOfItem c.skippedSources (c.surface m) b)) ∧
      ∀ b ∈ c.blocks m, ∀ i ∈ b.items, Selected c.skippedSources (c.surface m) b i →
        ((∀ x y, Takes b.items x y → y.name = i.name →
            Selected c.skippedSources (c.surface m) b x ∧ ¬ IsDescription b x) →
          Represented c.skippedSources (c.surface m) b i) ∧
        ((b.items.map (·.name)).Nodup → i.name ≠ "" →
          (Represented c.skippedSources (c.surface m) b i ↔ ∀ x, Takes b.items x i →
            x.visible = true ∧ ((c.surface m).inHeader x = true ∨
              b.source ∉ c.skippedSources))) := by
  refine ⟨c.conversion m, Rules.convert_eq h m, Rules.filter_rows_conversion c m,
    fun b _ i hi hselected => ⟨fun htaken => ?_, fun hnodup hname => ?_⟩⟩
  · by_cases hdescription : IsDescription b i
    · obtain ⟨k, hk⟩ := hdescription
      obtain ⟨x, y, htakes, -, hy⟩ := exists_takes hk
      obtain ⟨hx, hfree⟩ := htaken x y htakes hy
      exact represented_of_takes htakes hy hx hfree
    · exact represented_of_not_isDescription hselected hdescription
  · exact represented_iff hnodup hname hi hselected

/-- The description of a visible item is represented, and that of a hidden item is not. -/
theorem convert_represents_descriptions :
    let shown : Item := { name := "A", canvas := "CANVAS_BODY", prompt := "Part" }
    let taken : Item := { name := "B", canvas := "CANVAS_BODY" }
    let hidden : Item := { name := "C", canvas := "CANVAS_BODY", visible := false, prompt := "No" }
    let lost : Item := { name := "D", canvas := "CANVAS_BODY" }
    let b : Block := { name := "B1", source := "T1", items := [shown, taken, hidden, lost] }
    let m : Module := { name := "M", blocks := [b] }
    let u := Rules.builtin.surface m
    Rules.builtin.ReadFrom .builtin ∧
      Represented ["PCS1005"] u b taken ∧ ¬ Represented ["PCS1005"] u b lost := by
  intro shown taken hidden lost b m u
  obtain ⟨-, -, -, hitems⟩ := convert_represents Rules.readFrom_builtin m
  have hb : b ∈ Rules.builtin.blocks m := List.mem_singleton_self b
  have hpairs : descriptionPairs b.items = [("A", "B"), ("C", "D")] := by decide
  have hnodup : (b.items.map (·.name)).Nodup := by decide
  have htaken := hitems b hb taken (by simp [b]) ⟨by decide, by decide⟩
  have hlost := hitems b hb lost (by simp [b]) ⟨by decide, by decide⟩
  refine ⟨Rules.readFrom_builtin, (htaken.2 hnodup (by decide)).mpr ?_, fun h => ?_⟩
  · rintro x ⟨hx, -, -, hpair⟩
    have hmem : x ∈ b.items := hx.mem (by simp)
    have hname : x.name = "A" := by simpa [hpairs, taken] using hpair
    obtain rfl : x = shown :=
      List.inj_on_of_nodup_map hnodup hmem (by simp [b]) hname
    exact ⟨rfl, by decide⟩
  · have htakes : Takes b.items hidden lost :=
      ⟨⟨[shown, taken], [], rfl⟩, rfl, by decide, by simp [hpairs, hidden, lost]⟩
    exact Bool.false_ne_true ((hlost.2 hnodup (by decide)).mp h hidden htakes).1

/-- A hidden text item takes the item after it, which has no row then. -/
theorem convert_loses_description :
    let hidden : Item := { name := "A", canvas := "CANVAS_BODY", visible := false }
    let lost : Item := { name := "C", canvas := "CANVAS_BODY" }
    let b : Block := { name := "B", source := "S", items := [hidden, lost] }
    let m : Module := { name := "M", blocks := [b] }
    (∃ result, m.convert .builtin = .ok result ∧ result.rows = []) ∧
      b ∈ Rules.builtin.blocks m ∧ Selected ["PCS1005"] (Rules.builtin.surface m) b lost ∧
      ¬ Represented ["PCS1005"] (Rules.builtin.surface m) b lost := by
  intro hidden lost b m
  have hrows : ∀ i ∈ b.items, rowsOfItem ["PCS1005"] (Rules.builtin.surface m) b i = [] := by
    simp only [b, List.forall_mem_cons]
    exact ⟨rfl, rfl, List.forall_mem_nil _⟩
  have hconvert := Rules.convert_eq Rules.readFrom_builtin m
  refine ⟨⟨_, hconvert, by decide +kernel⟩, List.mem_singleton_self b, ⟨by decide, by decide⟩, ?_⟩
  rintro (⟨r, hr, -⟩ | ⟨o, ho, r, hr, -⟩)
  · rw [hrows lost (by simp [b])] at hr
    cases hr
  · rw [hrows o ho] at hr
    cases hr

end Formwork.Form
