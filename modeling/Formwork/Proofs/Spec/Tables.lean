import Formwork.Proofs.Spec.Cell

/-!
# The tables of a specification

The document of a specification is a sequence of parts: lines of text, and tables. Every row of a
table has as many cells as the head. Most texts of the records are escaped in their cells; the names
of blocks, fields, tab pages, buttons, lists of values and triggers, and the types and case
restrictions of fields, are not. So the tables keep their shape whatever the other texts are, and
lose it exactly where one of these has a line end or a bar that counts.
-/
namespace Formwork.Spec.Markdown

namespace Cell

/-- A word of the document. -/
def word (s : String) (h : s.toList.all isInline = true := by decide) : Cell :=
  fixed s h

def number (i : Int) : Cell :=
  fixed (toString i) (all_isInline_toString i)

/-- One of two words of the document. -/
def choice (b : Bool) (yes no : String) (hyes : yes.toList.all isInline = true := by decide)
    (hno : no.toList.all isInline = true := by decide) : Cell :=
  fixed (if b then yes else no) (by cases b <;> assumption)

/-- A number, or a dash for zero. -/
def numberOrDash (i : Int) : Cell :=
  if i = 0 then word "-" else number i

theorem text_number (n : Nat) : (number n).text = toString n := rfl

theorem text_choice {b : Bool} {yes no : String} {hyes hno} :
    (choice b yes no hyes hno).text = if b then yes else no := rfl

theorem text_numberOrDash (i : Int) :
    (numberOrDash i).text = if i == 0 then "-" else toString i := by
  rw [numberOrDash, apply_ite text]
  simp only [beq_iff_eq]
  rfl

end Cell

def rowLine (cells : List Cell) : String :=
  row (cells.map Cell.text)

/-- A table, with as many cells in every row as in the head. -/
structure Table where
  head : List String
  widths : List Nat
  rows : List (List Cell)
  ne_nil : head ≠ [] := by simp
  inline : ∀ s ∈ head, s.toList.all isInline = true := by decide
  length_eq : ∀ cells ∈ rows, cells.length = head.length := by simp

def Table.lines (t : Table) : List String :=
  row t.head :: rule t.widths :: t.rows.map rowLine

/-- A part of the document. -/
inductive Part where
  | prose (lines : List String)
  | table (t : Table)

def Part.lines : Part → List String
  | prose lines => lines
  | table t => t.lines

theorem flatMap_lines_prose (lines : List String) :
    [Part.prose lines].flatMap Part.lines = lines :=
  List.append_nil lines

/-- A table under a heading, with an empty line behind it. -/
def headed (heading : List String) (t : Table) : List Part :=
  [.prose heading, .table t, .prose [""]]

theorem flatMap_lines_headed (heading : List String) (t : Table) :
    (headed heading t).flatMap Part.lines = heading ++ t.lines ++ [""] := by
  simp [headed, Part.lines]

/-- Entries that only stand under a condition. -/
def onlyIf {α : Type} (condition : Bool) (l : List α) : List α :=
  if condition then l else []

section OnlyIf

variable {α : Type} {condition : Bool} {l : List α}

theorem map_onlyIf {f : α → String} :
    (onlyIf condition l).map f = when condition (l.map f) := by
  cases condition <;> rfl

theorem flatMap_lines_onlyIf (condition : Bool) (parts : List Part) :
    (onlyIf condition parts).flatMap Part.lines = when condition (parts.flatMap Part.lines) := by
  cases condition <;> rfl

end OnlyIf

/-- The row of a table keeps its shape where the cells fit. -/
theorem Table.sameShape_iff (t : Table) {cells : List Cell} (h : cells ∈ t.rows) (paired : Bool) :
    SameShape paired (row t.head) (rowLine cells) ↔ ∀ c ∈ cells, c.Fits paired := by
  have hlength : (cells.map Cell.text).length = t.head.length := by
    rw [List.length_map, t.length_eq cells h]
  rw [rowLine, sameShape_row_iff t.ne_nil hlength fun s hs =>
    (inline_of_all (t.inline s hs)).2, List.forall_mem_map]
  exact forall₂_congr fun c _ => Cell.inline_text_iff

/-! ## Blocks -/

def fieldCells (f : Field) : List Cell :=
  [.number f.number, .escaped f.prompt, .plain f.column, .choice f.displayed "Y" "N",
    .plain f.dataType, .numberOrDash f.maxLength, .choice f.required "TRUE" "-",
    .plain f.caseRestriction, .escaped f.lovName, .escaped f.formatMask,
    .choice f.updateAllowed "TRUE" "FALSE", .escaped f.initialValue, .escaped f.remark]

def fieldsTable (fields : List Field) : Table where
  head := ["No", "Prompt", "DB Column", "Displayed", "Data Type", "Length", "Required",
    "Case Restriction", "LOV", "FormatMask", "Update Allowed", "Initial Value", "Remark"]
  widths := [4, 8, 11, 11, 11, 8, 10, 18, 5, 12, 16, 15, 8]
  rows := fields.map fieldCells
  length_eq := List.forall_mem_map.mpr fun _ _ => rfl

/-- What the table of a block says of it: each property with its value. -/
def properties (b : Block) : List (Cell × Cell) :=
  [(.word "Block Name", .plain b.name), (.word "Base Table(表格名稱)", .escaped b.baseTable)] ++
  onlyIf (b.condition != "") [(.word "Where Condition(條件)", .escaped b.condition)] ++
  onlyIf (b.orderBy != "") [(.word "Order By Clause(排序)", .escaped b.orderBy)] ++
  [(.word "Insert Allowed(新增資料否)", .choice b.insertAllowed "true" "false"),
    (.word "Update Allowed(更新資料否)", .choice b.updateAllowed "true" "false"),
    (.word "Delete Allowed(刪除資料否)", .choice b.deleteAllowed "true" "false")]

def propertiesTable (b : Block) : Table where
  head := ["項目", "內容"]
  widths := [6, 6]
  rows := (properties b).map (fun (name, value) => [name, value])
  length_eq := List.forall_mem_map.mpr fun _ _ => rfl

def blockHeading (number : Nat) (b : Block) : List String :=
  let n := toString number
  let kind := if b.singleRecord == some true then "表頭" else "明細"
  ["## (" ++ n ++ ") 畫面(" ++ n ++ ") - " ++ b.name ++ " [" ++ kind ++ "]", ""]

def blockParts (number : Nat) (b : Block) : List Part :=
  headed (blockHeading number b) (propertiesTable b) ++
    onlyIf (!b.fields.isEmpty) (headed ["### 欄位清單", ""] (fieldsTable b.fields))

theorem rowLine_fieldCells (f : Field) : rowLine (fieldCells f) = fieldRow f := by
  simp only [rowLine, fieldCells, List.map_cons, List.map_nil, Cell.text_number, Cell.text_choice,
    Cell.text_numberOrDash]
  rfl

theorem lines_fieldsTable (fields : List Field) :
    ["### 欄位清單", ""] ++ (fieldsTable fields).lines ++ [""] = fieldTable fields := by
  have hrows : (fieldsTable fields).rows.map rowLine = fields.map fieldRow := by
    rw [fieldsTable, List.map_map]
    exact List.map_congr_left fun f _ => rowLine_fieldCells f
  rw [Table.lines, hrows]
  rfl

theorem lines_propertiesTable (b : Block) : (propertiesTable b).lines =
    [row ["項目", "內容"], rule [6, 6], row ["Block Name", b.name],
      row ["Base Table(表格名稱)", cell b.baseTable]] ++
    when (b.condition != "") [row ["Where Condition(條件)", cell b.condition]] ++
    when (b.orderBy != "") [row ["Order By Clause(排序)", cell b.orderBy]] ++
    [row ["Insert Allowed(新增資料否)", flagWord b.insertAllowed],
      row ["Update Allowed(更新資料否)", flagWord b.updateAllowed],
      row ["Delete Allowed(刪除資料否)", flagWord b.deleteAllowed]] := by
  simp only [Table.lines, propertiesTable, properties, List.map_map, List.map_append, map_onlyIf]
  rfl

theorem lines_blockParts (number : Nat) (b : Block) :
    (blockParts number b).flatMap Part.lines = blockLines number b := by
  rw [blockParts, List.flatMap_append, flatMap_lines_onlyIf, flatMap_lines_headed,
    flatMap_lines_headed, blockLines, lines_fieldsTable, lines_propertiesTable]
  simp only [List.append_assoc]
  rfl

/-! ## Tab pages, buttons and lists of values -/

def tabPagesTable (pages : List Form.TabPage) : Table where
  head := ["Tab Page", "標籤", "Canvas"]
  widths := [10, 6, 8]
  rows := pages.map (fun p => [.plain p.name, .escaped p.label, .escaped p.canvas])
  length_eq := List.forall_mem_map.mpr fun _ _ => rfl

def tabPageParts (pages : List Form.TabPage) : List Part :=
  onlyIf (!pages.isEmpty) (headed ["## 頁籤", ""] (tabPagesTable pages))

theorem lines_tabPageParts (pages : List Form.TabPage) :
    (tabPageParts pages).flatMap Part.lines = tabPageLines pages := by
  rw [tabPageParts, flatMap_lines_onlyIf, flatMap_lines_headed, Table.lines, tabPagesTable,
    List.map_map]
  rfl

def buttonsTable (buttons : List Button) : Table where
  head := ["按鈕名稱", "標籤", "說明"]
  widths := [10, 6, 6]
  rows := buttons.map (fun b => [.plain b.name, .escaped b.label, .escaped b.description])
  length_eq := List.forall_mem_map.mpr fun _ _ => rfl

def buttonParts (buttons : List Button) : List Part :=
  onlyIf (!buttons.isEmpty) (headed ["## 按鈕", ""] (buttonsTable buttons))

theorem lines_buttonParts (buttons : List Button) :
    (buttonParts buttons).flatMap Part.lines = buttonLines buttons := by
  rw [buttonParts, flatMap_lines_onlyIf, flatMap_lines_headed, Table.lines, buttonsTable,
    List.map_map]
  rfl

/-- The rows of a list of values without their numbers. -/
def lovRows (l : Lov) : List (List Cell) :=
  if l.columns.isEmpty then [[.plain l.name, .escaped l.recordGroup, .word "-", .word "-"]]
  else l.columns.map (fun c =>
    [.plain l.name, .escaped l.recordGroup, .plain c.name, .escaped c.returnItem])

theorem length_of_mem_lovRows {l : Lov} {cells : List Cell} (h : cells ∈ lovRows l) :
    cells.length = 4 := by
  rw [lovRows] at h
  split at h
  · rw [List.mem_singleton.mp h]
    rfl
  · obtain ⟨c, -, rfl⟩ := List.mem_map.mp h
    rfl

def lovsTable (lovs : List Lov) : Table where
  head := ["No", "Name", "Record Group Name", "LOV Column Name", "Return Item"]
  widths := [4, 6, 19, 17, 13]
  rows := (lovs.flatMap lovRows).zipIdx.map (fun (cells, i) => .number (i + 1 : Nat) :: cells)
  length_eq := by
    rw [List.forall_mem_map]
    rintro ⟨cells, i⟩ h
    obtain ⟨l, -, hcells⟩ := List.mem_flatMap.mp (List.fst_mem_of_mem_zipIdx h)
    exact congrArg (· + 1) (length_of_mem_lovRows hcells)

def lovParts (lovs : List Lov) : List Part :=
  onlyIf (!lovs.isEmpty) (headed
    ["## LOV", "",
      "- A. Name：List of Value 名稱",
      "- B. Record Group Name：LOV 的資料來源",
      "- C. LOV Column Name：LOV 顯示的欄位",
      "- D. Return Item：點選 LOV 後回傳至畫面對應的欄位",
      ""] (lovsTable lovs))

theorem lovCells_eq (l : Lov) : lovCells l = (lovRows l).map (List.map Cell.text) := by
  rw [lovCells, lovRows]
  split
  · rfl
  · rw [List.map_map]
    rfl

theorem lines_lovParts (lovs : List Lov) : (lovParts lovs).flatMap Part.lines = lovLines lovs := by
  have hcells : lovs.flatMap lovCells = (lovs.flatMap lovRows).map (List.map Cell.text) := by
    rw [List.map_flatMap, funext lovCells_eq]
  rw [lovParts, flatMap_lines_onlyIf, flatMap_lines_headed, lovLines, hcells, Table.lines,
    lovsTable, List.zipIdx_map, List.map_map, List.map_map]
  rfl

/-! ## Triggers -/

def statisticsTable (s : Trigger.Section) : Table where
  head := ["項目", "數量"]
  widths := [6, 6]
  rows := [[.word "總數", .number s.count], [.word "Form 層級", .number s.form.length],
    [.word "Block 層級", .number s.blockCount]]

def analysisCells (t : Trigger.Analysis) : List Cell :=
  [.number t.number, .plain t.name, .escaped t.event.description, .escaped t.summary]

def formTriggersTable (triggers : List Trigger.Analysis) : Table where
  head := ["No", "名稱", "事件描述", "業務規則摘要"]
  widths := [4, 6, 10, 14]
  rows := triggers.map analysisCells
  length_eq := List.forall_mem_map.mpr fun _ _ => rfl

def blockTriggersTable (triggers : List Trigger.Analysis) : Table where
  head := ["No", "名稱", "事件描述", "業務規則", "SQL"]
  widths := [4, 6, 10, 10, 5]
  rows := triggers.map (fun t => analysisCells t ++ [.choice t.statements.isEmpty "-" "✓"])
  length_eq := List.forall_mem_map.mpr fun _ _ => rfl

/-- The rules and statements of the triggers that have some. -/
def detailedLines (s : Trigger.Section) : List String :=
  let detailed := s.all.filter (fun t => !t.rules.isEmpty || !t.statements.isEmpty)
  when (!detailed.isEmpty) ["### 詳細業務規則", ""] ++ detailed.flatMap detailLines

def triggerParts (s : Trigger.Section) : List Part :=
  onlyIf (s.count != 0) (
    headed ["## 觸發器規則", "", "### 統計摘要", ""] (statisticsTable s) ++
    onlyIf (!s.form.isEmpty) (headed ["### Form 層級觸發器", ""] (formTriggersTable s.form)) ++
    s.blocks.flatMap (fun (name, triggers) =>
      headed ["### Block: " ++ name, ""] (blockTriggersTable triggers)) ++
    [.prose (detailedLines s)])

theorem lines_formTriggersTable (triggers : List Trigger.Analysis) :
    (formTriggersTable triggers).lines ++ [""] = formTriggerTable triggers := by
  rw [Table.lines, formTriggersTable, List.map_map]
  rfl

theorem lines_blockTriggersTable (triggers : List Trigger.Analysis) :
    (blockTriggersTable triggers).lines ++ [""] = blockTriggerTable triggers := by
  rw [Table.lines, blockTriggersTable, List.map_map]
  rfl

theorem lines_triggerParts (s : Trigger.Section) :
    (triggerParts s).flatMap Part.lines = triggerLines s := by
  rw [triggerParts, flatMap_lines_onlyIf, triggerLines]
  simp only [List.flatMap_append, flatMap_lines_onlyIf, flatMap_lines_headed, List.flatMap_assoc,
    flatMap_lines_prose, List.append_assoc, lines_formTriggersTable, lines_blockTriggersTable]
  rfl

/-! ## The document -/

def titleLines (s : FormSpec) : List String :=
  ["# " ++ s.name ++ " 功能規格說明",
    "",
    "**程式名稱:** " ++ Form.orText s.title "N/A",
    "",
    "**功能說明:** " ++ Form.orText s.purpose "-",
    ""]

/-- The document of a specification as its parts. -/
def parts (s : FormSpec) (diagram : String) : List Part :=
  [.prose (titleLines s)] ++
  s.blocks.zipIdx.flatMap (fun (b, i) => blockParts (i + 1) b) ++
  tabPageParts s.tabPages ++
  buttonParts s.buttons ++
  lovParts s.lovs ++
  [.prose (recordGroupLines s.recordGroups)] ++
  triggerParts s.triggers ++
  [.prose (diagramLines diagram)]

theorem document_eq (s : FormSpec) (diagram : String) :
    document s diagram = String.intercalate "\n" ((parts s diagram).flatMap Part.lines) := by
  simp only [parts, List.flatMap_append, List.flatMap_assoc, lines_blockParts, lines_tabPageParts,
    lines_buttonParts, lines_lovParts, lines_triggerParts, flatMap_lines_prose]
  rfl

/-! ## Texts as they stand -/

def Cell.plain? : Cell → Option String
  | plain s => some s
  | fixed _ _ => none
  | escaped _ => none

/-- The texts that stand in the cells of a table as they are. -/
def Table.plainTexts (t : Table) : List String :=
  t.rows.flatMap (fun cells => cells.filterMap Cell.plain?)

def Part.plainTexts : Part → List String
  | prose _ => []
  | table t => t.plainTexts

/-- The texts of a specification that are not escaped in tables: the names, and the types and case
restrictions of fields. -/
def plainTexts (s : FormSpec) : List String :=
  s.blocks.flatMap (fun b => b.name ::
    b.fields.flatMap (fun f => [f.column, f.dataType, f.caseRestriction])) ++
  s.tabPages.map (·.name) ++
  s.buttons.map (·.name) ++
  s.lovs.flatMap (fun l => l.name :: l.columns.map (·.name)) ++
  s.triggers.all.map (·.name)

theorem flatMap_plainTexts_headed (heading : List String) (t : Table) :
    (headed heading t).flatMap Part.plainTexts = t.plainTexts :=
  List.append_nil _

theorem flatMap_plainTexts_onlyIf (condition : Bool) (parts : List Part) :
    (onlyIf condition parts).flatMap Part.plainTexts =
      onlyIf condition (parts.flatMap Part.plainTexts) := by
  cases condition <;> rfl

section Records

variable {α β : Type} {l : List α}

theorem onlyIf_isEmpty_flatMap (l : List α) (f : α → List β) :
    onlyIf (!l.isEmpty) (l.flatMap f) = l.flatMap f := by
  cases l <;> rfl

theorem onlyIf_isEmpty_map (l : List α) (f : α → β) :
    onlyIf (!l.isEmpty) (l.map f) = l.map f := by
  cases l <;> rfl

theorem flatMap_fst_zipIdx (l : List α) (f : α → List β) :
    l.zipIdx.flatMap (fun p => f p.1) = l.flatMap f := by
  conv_rhs => rw [← List.zipIdx_map_fst 0 l, List.flatMap_map]

/-- A table with a row for each record. -/
theorem Table.plainTexts_eq_flatMap {t : Table} {cells : α → List Cell}
    (h : t.rows = l.map cells) :
    t.plainTexts = l.flatMap (fun a => (cells a).filterMap Cell.plain?) := by
  rw [Table.plainTexts, h, List.flatMap_map]

/-- A table with a row for each record, in which only the name of the record is not escaped. -/
theorem Table.plainTexts_eq_map {t : Table} {cells : α → List Cell} {name : α → String}
    (h : t.rows = l.map cells) (hname : ∀ a, (cells a).filterMap Cell.plain? = [name a]) :
    t.plainTexts = l.map name := by
  rw [Table.plainTexts_eq_flatMap h, funext hname, List.map_eq_flatMap]

end Records

theorem plainTexts_propertiesTable (b : Block) : (propertiesTable b).plainTexts = [b.name] := by
  simp only [Table.plainTexts, propertiesTable, properties]
  cases b.condition != "" <;> cases b.orderBy != "" <;> rfl

theorem plainTexts_blockParts (number : Nat) (b : Block) :
    (blockParts number b).flatMap Part.plainTexts = b.name ::
      b.fields.flatMap (fun f => [f.column, f.dataType, f.caseRestriction]) := by
  have hfields : (fieldsTable b.fields).plainTexts =
      b.fields.flatMap (fun f => [f.column, f.dataType, f.caseRestriction]) := by
    refine (Table.plainTexts_eq_flatMap rfl).trans (List.flatMap_congr fun f _ => ?_)
    rw [fieldCells, Cell.numberOrDash]
    split <;> rfl
  rw [blockParts, List.flatMap_append, flatMap_plainTexts_onlyIf, flatMap_plainTexts_headed,
    flatMap_plainTexts_headed, plainTexts_propertiesTable, hfields, onlyIf_isEmpty_flatMap]
  rfl

theorem plainTexts_tabPageParts (pages : List Form.TabPage) :
    (tabPageParts pages).flatMap Part.plainTexts = pages.map (·.name) := by
  have htable : (tabPagesTable pages).plainTexts = pages.map (·.name) :=
    Table.plainTexts_eq_map rfl fun _ => rfl
  rw [tabPageParts, flatMap_plainTexts_onlyIf, flatMap_plainTexts_headed, htable,
    onlyIf_isEmpty_map]

theorem plainTexts_buttonParts (buttons : List Button) :
    (buttonParts buttons).flatMap Part.plainTexts = buttons.map (·.name) := by
  have htable : (buttonsTable buttons).plainTexts = buttons.map (·.name) :=
    Table.plainTexts_eq_map rfl fun _ => rfl
  rw [buttonParts, flatMap_plainTexts_onlyIf, flatMap_plainTexts_headed, htable,
    onlyIf_isEmpty_map]

theorem mem_plainTexts_lovParts {lovs : List Lov} {x : String} :
    x ∈ (lovParts lovs).flatMap Part.plainTexts ↔
      x ∈ lovs.flatMap (fun l => l.name :: l.columns.map (·.name)) := by
  have hrows : (lovsTable lovs).plainTexts = lovs.flatMap (fun l =>
      (lovRows l).flatMap (fun cells => cells.filterMap Cell.plain?)) := by
    rw [Table.plainTexts, lovsTable, List.flatMap_map, ← List.flatMap_assoc]
    exact flatMap_fst_zipIdx _ _
  have hlov : ∀ l : Lov, x ∈ (lovRows l).flatMap (fun cells => cells.filterMap Cell.plain?) ↔
      x ∈ l.name :: l.columns.map (·.name) := by
    intro l
    rw [lovRows]
    cases hcolumns : l.columns with
    | nil => rfl
    | cons c columns =>
      rw [List.isEmpty_cons, if_neg Bool.false_ne_true, List.flatMap_map, ← hcolumns]
      have hrow : ∀ c : Form.LovColumn, [Cell.plain l.name, .escaped l.recordGroup, .plain c.name,
          .escaped c.returnItem].filterMap Cell.plain? = [l.name, c.name] := fun _ => rfl
      simp only [hrow, List.mem_flatMap, List.mem_cons, List.mem_map, List.not_mem_nil, or_false]
      constructor
      · rintro ⟨c, hc, hx | hx⟩
        · exact Or.inl hx
        · exact Or.inr ⟨c, hc, hx.symm⟩
      · rintro (hx | ⟨c, hc, hx⟩)
        · exact ⟨c, by simp [hcolumns], Or.inl hx⟩
        · exact ⟨c, hc, Or.inr hx.symm⟩
  rw [lovParts, flatMap_plainTexts_onlyIf, flatMap_plainTexts_headed, hrows,
    onlyIf_isEmpty_flatMap, List.mem_flatMap, List.mem_flatMap]
  exact exists_congr fun l => and_congr_right fun _ => hlov l

theorem plainTexts_triggerParts (s : Trigger.Section) :
    (triggerParts s).flatMap Part.plainTexts = s.all.map (·.name) := by
  have hform : (formTriggersTable s.form).plainTexts = s.form.map (·.name) :=
    Table.plainTexts_eq_map rfl fun _ => rfl
  have hblock : ∀ triggers, (blockTriggersTable triggers).plainTexts = triggers.map (·.name) :=
    fun _ => Table.plainTexts_eq_map rfl fun _ => rfl
  have hstatistics : (statisticsTable s).plainTexts = [] := rfl
  rw [triggerParts, flatMap_plainTexts_onlyIf]
  simp only [List.flatMap_append, flatMap_plainTexts_onlyIf, flatMap_plainTexts_headed,
    List.flatMap_assoc, hstatistics, hform, hblock, onlyIf_isEmpty_map, List.nil_append]
  have hall : s.all.map (·.name) =
      s.form.map (·.name) ++ s.blocks.flatMap (fun x => x.2.map (·.name)) := by
    rw [Trigger.Section.all, List.map_append, List.map_flatMap]
  rw [← hall]
  by_cases hcount : s.count = 0
  · rw [hcount, List.length_eq_zero_iff.mp hcount]
    rfl
  · rw [onlyIf, if_pos (by simpa using hcount)]
    exact List.append_nil _

theorem mem_plainTexts_parts (s : FormSpec) (diagram : String) {x : String} :
    x ∈ (parts s diagram).flatMap Part.plainTexts ↔ x ∈ plainTexts s := by
  have hprose : ∀ lines, [Part.prose lines].flatMap Part.plainTexts = [] := fun _ => rfl
  have hblocks := flatMap_fst_zipIdx s.blocks (fun b => b.name ::
    b.fields.flatMap (fun f => [f.column, f.dataType, f.caseRestriction]))
  simp only [parts, plainTexts, List.flatMap_append, List.flatMap_assoc, hprose, hblocks,
    plainTexts_blockParts, plainTexts_tabPageParts, plainTexts_buttonParts,
    plainTexts_triggerParts, List.mem_append, mem_plainTexts_lovParts, List.not_mem_nil, or_false,
    false_or]

/-- All rows of all tables of a specification keep the shape of their tables, where backslashes are
not paired, exactly if the texts that stand as they are do. -/
theorem forall_fits_iff (s : FormSpec) (diagram : String) :
    (∀ t, Part.table t ∈ parts s diagram → ∀ cells ∈ t.rows, ∀ c ∈ cells, c.Fits false) ↔
      ∀ x ∈ plainTexts s, Inline false x := by
  constructor
  · intro h x hx
    obtain ⟨part, hpart, hx⟩ := List.mem_flatMap.mp ((mem_plainTexts_parts s diagram).mpr hx)
    cases part with
    | prose lines => cases hx
    | table t =>
      obtain ⟨cells, hcells, hx⟩ := List.mem_flatMap.mp hx
      obtain ⟨c, hc, hplain⟩ := List.mem_filterMap.mp hx
      cases c with
      | plain s =>
        obtain rfl := Option.some.inj hplain
        exact h t hpart cells hcells _ hc
      | fixed s hinline => cases hplain
      | escaped s => cases hplain
  · intro h t ht cells hcells c hc
    cases c with
    | plain x =>
      refine h x ((mem_plainTexts_parts s diagram).mp ?_)
      exact List.mem_flatMap.mpr ⟨_, ht, List.mem_flatMap.mpr ⟨cells, hcells,
        List.mem_filterMap.mpr ⟨_, hc, rfl⟩⟩⟩
    | fixed s hinline => trivial
    | escaped s => exact nofun

/-- **Tables keep their shape where texts as they stand do.** The document is the lines of its
parts. A row of one of its tables is one line with as many bars that count as the head of the table
exactly where its cells fit: a text that is not escaped has neither line ends nor bars that count,
and, if backslashes are paired, an escaped one has no bar that a backslash of its own would escape.
So, where backslashes are not paired, all rows keep the shape of their tables exactly if no name,
and no type or case restriction of a field, has a line end or a bar that counts. -/
theorem tables_keep_shape (s : FormSpec) (diagram : String) :
    document s diagram = String.intercalate "\n" ((parts s diagram).flatMap Part.lines) ∧
    (∀ t, Part.table t ∈ parts s diagram → ∀ cells ∈ t.rows, ∀ paired,
      (SameShape paired (row t.head) (rowLine cells) ↔ ∀ c ∈ cells, c.Fits paired)) ∧
    ((∀ t, Part.table t ∈ parts s diagram → ∀ cells ∈ t.rows,
        SameShape false (row t.head) (rowLine cells)) ↔ ∀ x ∈ plainTexts s, Inline false x) := by
  refine ⟨document_eq s diagram, fun t _ cells hcells paired => t.sameShape_iff hcells paired, ?_⟩
  rw [← forall_fits_iff s diagram]
  exact forall₂_congr fun t _ => forall₂_congr fun cells hcells => t.sameShape_iff hcells false

/-- A bar in the name of a block is one bar too many in the table of the block. -/
theorem table_loses_shape :
    let b : Block := { name := "B|1" }
    let s : FormSpec := { name := "F", blocks := [b] }
    let cells : List Cell := [.word "Block Name", .plain b.name]
    Part.table (propertiesTable b) ∈ parts s "" ∧ cells ∈ (propertiesTable b).rows ∧
      ∀ paired, bars paired false (row (propertiesTable b).head).toList = 3 ∧
        bars paired false (rowLine cells).toList = 4 ∧
        ¬ SameShape paired (row (propertiesTable b).head) (rowLine cells) := by
  intro b s cells
  have htable : Part.table (propertiesTable b) ∈ parts s "" := by
    have hblock : Part.table (propertiesTable b) ∈ blockParts 1 b := by simp [blockParts, headed]
    simp [parts, s, hblock]
  have hhead : ∀ paired, bars paired false (row (propertiesTable b).head).toList = 3 := by
    decide +kernel
  have hrow : ∀ paired, bars paired false (rowLine cells).toList = 4 := by
    decide +kernel
  refine ⟨htable, List.mem_cons_self, fun paired => ⟨hhead paired, hrow paired, fun h => ?_⟩⟩
  have hbars := h.2
  rw [hhead, hrow] at hbars
  cases hbars

end Formwork.Spec.Markdown
