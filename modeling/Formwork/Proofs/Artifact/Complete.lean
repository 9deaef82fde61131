import Formwork.Artifact
import Formwork.Proofs.Limit
import Formwork.Proofs.Resource.Agreement
import Formwork.Proofs.Row.Report
import Formwork.Proofs.Schema.Script

/-!
# All artifacts or none

Where nothing blocks the generation, the checks of the single scripts pass on the rows with derived
names, and a page can be laid out by every positive height of columns. So artifacts are made then,
unless a number in one of them has more digits than are written.
-/
namespace Formwork

/-- The settings of pages are numbers, and columns hold something. -/
structure Settings.HasMeasures (s : Settings) : Prop where
  listRows : ∃ n, s.listRows = .ok n
  columnHeight : ∃ n, s.fieldsPerColumn = .ok n ∧ 1 ≤ n
  detailRows : ∃ n, s.detailRows = .ok n

/-- The number of rows of the list can be written. -/
def Settings.ShowsList (s : Settings) : Prop :=
  ∀ n, s.listRows = .ok n → exceedsDigits n = false

/-- The number of rows of detail tables can be written. -/
def Settings.ShowsDetails (s : Settings) : Prop :=
  ∀ n, s.detailRows = .ok n → exceedsDigits n = false

/-- The settings of pages are numbers, columns hold something, and what tables show of the numbers
can be written. -/
structure Settings.WellTyped (s : Settings) : Prop extends s.HasMeasures where
  showsList : s.ShowsList
  showsDetails : s.ShowsDetails

theorem Settings.hasMeasures_builtin : Settings.builtin.HasMeasures :=
  ⟨⟨50, rfl⟩, ⟨4, rfl, by decide⟩, ⟨10, rfl⟩⟩

theorem Settings.wellTyped_builtin : Settings.builtin.WellTyped where
  toHasMeasures := hasMeasures_builtin
  showsList n h := exceedsDigits_of_le (Except.ok.inj h ▸ by decide)
  showsDetails n h := exceedsDigits_of_le (Except.ok.inj h ▸ by decide)

namespace Page

/-- What the tables of a page show of the settings can be written. -/
structure ShowsRows (s : Settings) (a : Application) : Prop where
  list : s.ShowsList
  details : ∀ p ∈ panelsOf a, p.tables ≠ [] → s.ShowsDetails

theorem okIff_shownRows (rows : Int) : OkIff (shownRows rows) (exceedsDigits rows = false) :=
  .guard _ _

theorem okIff_fitPanel {height : Int} (hpos : 1 ≤ height) (rows : Int) (p : Panel) :
    OkIff (fitPanel height rows p) (p.tables ≠ [] → exceedsDigits rows = false) := by
  have hlacks : lacksHeight height p.header = false := by
    have hzero : (height == 0) = false := by
      rw [beq_eq_false_iff_ne]
      omega
    rw [lacksHeight, hzero, Bool.false_and, Bool.false_and]
  rw [fitPanel, hlacks, if_neg Bool.false_ne_true]
  cases htables : p.tables with
  | nil => exact .of_eq_ok rfl fun h => absurd rfl h
  | cons table tables =>
    exact ((okIff_shownRows rows).map _).congr
      (imp_iff_right (List.cons_ne_nil table tables)).symm

/-- The measures of a page are read if what its tables show of them can be written. -/
theorem okIff_measures {s : Settings} (hs : s.HasMeasures) (a : Application) :
    OkIff (Measures.read s a) (ShowsRows s a) := by
  obtain ⟨list, hlist⟩ := hs.listRows
  obtain ⟨height, hheight, hpos⟩ := hs.columnHeight
  obtain ⟨detail, hdetail⟩ := hs.detailRows
  have hshows : ShowsRows s a ↔ exceedsDigits list = false ∧
      ∀ p ∈ panelsOf a, p.tables ≠ [] → exceedsDigits detail = false := by
    have hlists : s.ShowsList ↔ exceedsDigits list = false := by simp [Settings.ShowsList, hlist]
    have hdetails : s.ShowsDetails ↔ exceedsDigits detail = false := by
      simp [Settings.ShowsDetails, hdetail]
    rw [← hlists, ← hdetails]
    exact ⟨fun h => ⟨h.list, h.details⟩, fun h => ⟨h.1, h.2⟩⟩
  refine OkIff.congr ?_ hshows.symm
  rw [Measures.read, hlist, hheight, hdetail]
  refine (okIff_shownRows list).seq fun rows => ?_
  split
  · next hempty =>
    refine .of_eq_ok rfl fun p hp => ?_
    rw [panelsOf, List.isEmpty_iff.mp hempty] at hp
    cases hp
  · exact (OkIff.forM fun p _ => okIff_fitPanel hpos detail p).bind_ok _

theorem exists_measures {s : Settings} (hs : s.WellTyped) (a : Application) :
    ∃ measures, Measures.read s a = .ok measures :=
  (okIff_measures hs.toHasMeasures a).ok ⟨hs.showsList, fun _ _ _ => hs.showsDetails⟩

end Page

/-- The numbers of a row can be written. -/
def Row.IsShort (r : Row) : Prop :=
  exceedsDigits r.length = false ∧ exceedsDigits r.scale = false

instance (r : Row) : Decidable r.IsShort :=
  inferInstanceAs (Decidable (_ ∧ _))

theorem Row.isShort_resolve (mark : String) {r : Row} (h : r.IsShort) :
    (r.resolve mark).IsShort := by
  rw [resolve]
  split <;> exact h

theorem StorageType.natAbs_defaultLength_le (t : StorageType) : t.defaultLength.natAbs ≤ 4000 := by
  cases t with
  | other word => exact (by decide : (0 : Int).natAbs ≤ 4000)
  | _ => decide

/-- A statement of a row can be written if the numbers of the row can. -/
theorem Schema.isOverlong_of_isShort {t : Schema.Statement} (h : t.row.IsShort) :
    t.isOverlong = false := by
  have hlength : exceedsDigits t.length = false := by
    rw [Statement.length, StorageType.lengthOr]
    split
    · exact exceedsDigits_of_le (StorageType.natAbs_defaultLength_le _)
    · exact h.1
  rw [Statement.isOverlong, hlength, h.2]
  rfl

/-- A definition shows the length of its row or none. -/
theorem Resource.shownLength_attributeOf (r : Row) :
    (Resource.attributeOf r).shownLength = none ∨
      (Resource.attributeOf r).shownLength = some r.length := by
  have hlength : (Resource.attributeOf r).length = none ∨
      (Resource.attributeOf r).length = some r.length := by
    rw [attributeOf]
    dsimp only
    split
    · exact Or.inr rfl
    · exact Or.inl rfl
  rw [AttributeDefinition.shownLength]
  split
  · exact hlength
  · exact Or.inl rfl

theorem Resource.isOverlong_attributeOf {r : Row} (h : r.IsShort) :
    (Resource.attributeOf r).isOverlong = false := by
  rw [AttributeDefinition.isOverlong]
  rcases Resource.shownLength_attributeOf r with hnone | hsome
  · rw [hnone]
    rfl
  · rw [hsome]
    exact h.1

theorem Schema.okIff_generate {s : Settings} {m : Metadata} {rows : List Row}
    (h : Row.requireSound (some m) rows = .ok ()) (time : String) :
    OkIff (Schema.generate s m time rows)
      (∀ t ∈ (Schema.statements s m rows).1, t.isOverlong = false) := by
  rw [Schema.generate, h]
  exact Schema.okIff_write s m time rows

theorem Resource.Script.okIff_write (script : Resource.Script) :
    OkIff script.write (∀ t ∈ script.tables, ∀ a ∈ t.attributes, a.isOverlong = false) :=
  (OkIff.guard _ _).congr (by simp only [List.any_eq_false, Bool.not_eq_true])

theorem Resource.okIff_generate {s : Settings} {m : Metadata} {rows : List Row}
    (h : Row.requireSound (some m) rows = .ok ()) (moduleName title : String)
    (envelope : Resource.Envelope) :
    OkIff (Resource.generate s m moduleName title envelope rows)
      (∀ t ∈ (Resource.definitions s m title rows).1, ∀ a ∈ t.attributes,
        a.isOverlong = false) := by
  rw [Resource.generate, h]
  exact (Resource.Script.okIff_write _).bind_ok _

namespace ApplicationInputs

variable {s : Settings}

def IsBlocked (i : ApplicationInputs) : Prop :=
  (∀ c ∈ i.metadata.recordName.words.toList, Text.isBlank c = true) ∨ i.rows = [] ∨
    ∃ r ∈ i.rows, ∃ p : RowProblem, p.Affects r

theorem isBlocked_iff {i : ApplicationInputs} :
    i.IsBlocked ↔ Row.blocking (some i.metadata) i.rows ≠ [] :=
  (Row.isReport_blocking i.metadata i.rows).ne_nil_iff.symm

/-- The rows with the names that all artifacts use. -/
def named (s : Settings) (i : ApplicationInputs) : List Row :=
  Row.resolveAll s (some i.metadata) i.rows

/-- The tree of the rows with their names. -/
def tree (s : Settings) (i : ApplicationInputs) : Application :=
  ((Application.ofRows s (some i.metadata) i.mainDetailLabels i.subTabs (i.named s)).run
    { base := i.idBase }).1

/-- Every number that an artifact shows can be written. -/
structure Fits (s : Settings) (i : ApplicationInputs) : Prop where
  page : Page.ShowsRows s (i.tree s)
  schema : ∀ t ∈ (Schema.statements s i.metadata (i.named s)).1, t.isOverlong = false
  resource : ∀ t ∈ (Resource.definitions s i.metadata i.moduleTitle (i.named s)).1,
    ∀ a ∈ t.attributes, a.isOverlong = false

/-- Where nothing blocks the generation, numbers decide. -/
theorem okIff_generate (hs : s.HasMeasures) {i : ApplicationInputs}
    (h : Row.requireSound (some i.metadata) i.rows = .ok ()) :
    OkIff (i.generate s) (i.Fits s) := by
  -- The scripts check the rows with derived names once more.
  have hnamed : Row.requireSound (some i.metadata) (i.named s) = .ok () :=
    Row.requireSound_resolveAll h
  have hfits : i.Fits s ↔ Page.ShowsRows s (i.tree s) ∧
      (∀ t ∈ (Schema.statements s i.metadata (i.named s)).1, t.isOverlong = false) ∧
      ∀ t ∈ (Resource.definitions s i.metadata i.moduleTitle (i.named s)).1, ∀ a ∈ t.attributes,
        a.isOverlong = false :=
    ⟨fun h => ⟨h.page, h.schema, h.resource⟩, fun h => ⟨h.1, h.2.1, h.2.2⟩⟩
  refine OkIff.congr ?_ hfits.symm
  simp only [generate, h, ok_bind]
  refine (Page.okIff_measures hs _).seq fun measures => ?_
  exact (Schema.okIff_generate hnamed "").seq fun schema =>
    (Resource.okIff_generate hnamed _ _ _).bind_ok _

/-- What is made is made of the rows with their names, by the two scripts' own generation. -/
structure Makes (s : Settings) (i : ApplicationInputs) (bundle : Bundle) : Prop where
  sound : Row.requireSound (some i.metadata) (i.named s) = .ok ()
  application : bundle.application = i.tree s
  schema : Schema.generate s i.metadata "" (i.named s) = .ok bundle.schema
  resource : Resource.generate s i.metadata i.moduleName i.moduleTitle i.envelope (i.named s) =
    .ok bundle.resource
  coverage : bundle.coverage = Coverage.compare
    (Coverage.expectedAttributes s i.metadata (i.tree s))
    (Coverage.stagedAttributes bundle.schema.content)

theorem makes_of_generate {i : ApplicationInputs} {bundle : Bundle}
    (h : i.generate s = .ok bundle) : i.Makes s bundle := by
  obtain ⟨u, hsound, h⟩ := bind_eq_ok.mp h
  obtain ⟨measures, -, h⟩ := bind_eq_ok.mp h
  obtain ⟨schema, hschema, h⟩ := bind_eq_ok.mp h
  obtain ⟨resource, hresource, h⟩ := bind_eq_ok.mp h
  obtain rfl := Except.ok.inj h
  exact ⟨Row.requireSound_resolveAll hsound, rfl, hschema, hresource, rfl⟩

theorem isShort_of_mem_named {i : ApplicationInputs} (h : ∀ r ∈ i.rows, r.IsShort) :
    ∀ r ∈ i.named s, r.IsShort := by
  intro r hr
  obtain ⟨given, hgiven, rfl⟩ := List.mem_map.mp hr
  exact Row.isShort_resolve _ (h given hgiven)

/-- Rows with numbers that can be written give artifacts that can be. -/
theorem fits_of_rows (hs : s.WellTyped) {i : ApplicationInputs} (h : ∀ r ∈ i.rows, r.IsShort) :
    i.Fits s where
  page := ⟨hs.showsList, fun _ _ _ => hs.showsDetails⟩
  schema t ht := by
    obtain ⟨k, hfirst⟩ := Schema.exists_isFirst_of_mem_statements ht
    exact Schema.isOverlong_of_isShort
      (isShort_of_mem_named h t.row (List.mem_of_getElem? hfirst.1))
  resource t ht a ha := by
    rcases Resource.given_definitions s i.metadata i.moduleTitle (i.named s) t ht a ha with
      rfl | ⟨r, hr, rfl⟩
    · rfl
    · exact Resource.isOverlong_attributeOf (isShort_of_mem_named h r hr.mem)

/-- Where neither rows nor settings have a number that is too long to be written, artifacts are made
exactly if nothing blocks the generation. -/
theorem exists_generate_iff (hs : s.WellTyped) {i : ApplicationInputs}
    (h : ∀ r ∈ i.rows, r.IsShort) : (∃ bundle, i.generate s = .ok bundle) ↔ ¬ i.IsBlocked := by
  rw [isBlocked_iff, not_not]
  constructor
  · rintro ⟨bundle, hbundle⟩
    by_contra hblocked
    rw [generate, Row.requireSound_eq_error hblocked] at hbundle
    cases hbundle
  · intro hfree
    exact (okIff_generate hs.toHasMeasures (Row.requireSound_eq_ok_iff.mpr hfree)).ok
      (fits_of_rows hs h)

/-- Nothing is made where something blocks the generation, and the report names all that does.
Otherwise the checks of the scripts pass as well and everything is made, unless a number in an
artifact has more digits than are written. There is none where neither rows nor settings have such a
number. -/
theorem generate_all_or_nothing (hs : s.HasMeasures) (i : ApplicationInputs) :
    (i.IsBlocked → ∃ problems, IsReport i.metadata i.rows problems ∧
      i.generate s = .error (.blocked problems)) ∧
    (¬ i.IsBlocked → Row.requireSound (some i.metadata) (i.named s) = .ok () ∧
      OkIff (i.generate s) (i.Fits s)) ∧
    (∀ bundle, i.generate s = .ok bundle →
      Schema.generate s i.metadata "" (i.named s) = .ok bundle.schema ∧
      Resource.generate s i.metadata i.moduleName i.moduleTitle i.envelope (i.named s) =
        .ok bundle.resource) ∧
    (s.WellTyped → (∀ r ∈ i.rows, r.IsShort) → i.Fits s) := by
  rw [isBlocked_iff, not_not]
  refine ⟨fun h => ?_, fun h => ?_, fun bundle hbundle => ?_,
    fun hwell hrows => fits_of_rows hwell hrows⟩
  · refine ⟨_, Row.isReport_blocking i.metadata i.rows, ?_⟩
    rw [generate, Row.requireSound_eq_error h]
    rfl
  · have hsound := Row.requireSound_eq_ok_iff.mpr h
    exact ⟨Row.requireSound_resolveAll hsound, okIff_generate hs hsound⟩
  · have hmakes := makes_of_generate hbundle
    exact ⟨hmakes.schema, hmakes.resource⟩

/-- A row that gets its name from its label keeps nothing from being made, and one of negative
length everything. -/
theorem generate_all_or_nothing_builtin :
    (∃ bundle, ({ rows := [{ label := .text "Amount" }] } : ApplicationInputs).generate .builtin =
      .ok bundle) ∧
    ∃ problems, Blocking.row 1 "Amount" .negativeLength ∈ problems ∧
      ({ rows := [{ label := .text "Amount", length := -1 }] } : ApplicationInputs).generate
        .builtin = .error (.blocked problems) := by
  have hs := Settings.hasMeasures_builtin
  constructor
  · obtain ⟨-, hmade, -, hfits⟩ :=
      generate_all_or_nothing hs { rows := [{ label := .text "Amount" }] }
    obtain ⟨-, hok⟩ := hmade (by rw [isBlocked_iff]; decide)
    refine hok.ok (hfits Settings.wellTyped_builtin ?_)
    exact List.forall_mem_singleton.mpr
      ⟨exceedsDigits_of_le (by decide), exceedsDigits_of_le (by decide)⟩
  · obtain ⟨hblocked, -⟩ :=
      generate_all_or_nothing hs { rows := [{ label := .text "Amount", length := -1 }] }
    obtain ⟨problems, hreport, herror⟩ := hblocked (by rw [isBlocked_iff]; decide)
    refine ⟨problems, (hreport.mem_iff _).mpr ⟨0, _, rfl, rfl, ?_, ?_⟩, herror⟩
    · decide
    · exact (by decide : (-1 : Int) < 0)

/-- No artifacts are made of a row whose length has too many digits to be written, though nothing
blocks the generation. -/
theorem generate_overlong :
    let i : ApplicationInputs :=
      { rows := [{ label := .text "Amount", length := firstOverlong }] }
    ¬ i.IsBlocked ∧ i.generate .builtin = .error .overlong := by
  intro i
  have hfree : Row.blocking (some i.metadata) i.rows = [] := by decide +kernel
  have hsound := Row.requireSound_eq_ok_iff.mpr hfree
  have hstatement :
      (Schema.statements .builtin i.metadata (i.named .builtin)).1.any (·.isOverlong) = true := by
    decide +kernel
  obtain ⟨t, ht, hlong⟩ := List.any_eq_true.mp hstatement
  refine ⟨fun h => isBlocked_iff.mp h hfree,
    (okIff_generate Settings.hasMeasures_builtin hsound).overlong fun h => ?_⟩
  rw [h.schema t ht] at hlong
  cases hlong

end ApplicationInputs

end Formwork
