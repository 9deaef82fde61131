import Formwork.Spec.Basic

/-!
The specification as a Markdown document: a section per block with its fields, tables of tab pages,
buttons and lists of values, the queries of record groups, and the triggers with their rules and
statements. A diagram closes the document where there is one.
-/
namespace Formwork.Spec.Markdown

/-- A character in a cell of a table: bars are escaped and line ends kept in the line. -/
def cellChar (c : Char) : String :=
  match c with
  | '|' => "\\|"
  | '\r' => ""
  | '\n' => "<br>"
  | c => String.singleton c

/-- The text of a cell; an empty cell holds a dash. -/
def cell (s : String) : String :=
  if s == "" then "-" else String.join (s.toList.map cellChar)

def row (cells : List String) : String :=
  "| " ++ String.intercalate " | " cells ++ " |"

/-- The line under the head of a table, with a dash for every place of a column. -/
def rule (widths : List Nat) : String :=
  "|" ++ String.intercalate "|" (widths.map (fun n => String.ofList (List.replicate n '-'))) ++ "|"

def flagWord (b : Bool) : String :=
  if b then "true" else "false"

/-- Lines that are only written under a condition. -/
def when (condition : Bool) (lines : List String) : List String :=
  if condition then lines else []

def fieldRow (f : Field) : String :=
  row [toString f.number, cell f.prompt, f.column, if f.displayed then "Y" else "N", f.dataType,
    if f.maxLength == 0 then "-" else toString f.maxLength, if f.required then "TRUE" else "-",
    f.caseRestriction, cell f.lovName, cell f.formatMask,
    if f.updateAllowed then "TRUE" else "FALSE", cell f.initialValue, cell f.remark]

def fieldTable (fields : List Field) : List String :=
  ["### 欄位清單", "",
    row ["No", "Prompt", "DB Column", "Displayed", "Data Type", "Length", "Required",
      "Case Restriction", "LOV", "FormatMask", "Update Allowed", "Initial Value", "Remark"],
    rule [4, 8, 11, 11, 11, 8, 10, 18, 5, 12, 16, 15, 8]] ++
  fields.map fieldRow ++ [""]

def blockLines (number : Nat) (b : Block) : List String :=
  let n := toString number
  let kind := if b.singleRecord == some true then "表頭" else "明細"
  ["## (" ++ n ++ ") 畫面(" ++ n ++ ") - " ++ b.name ++ " [" ++ kind ++ "]", "",
    row ["項目", "內容"],
    rule [6, 6],
    row ["Block Name", b.name],
    row ["Base Table(表格名稱)", cell b.baseTable]] ++
  when (b.condition != "") [row ["Where Condition(條件)", cell b.condition]] ++
  when (b.orderBy != "") [row ["Order By Clause(排序)", cell b.orderBy]] ++
  [row ["Insert Allowed(新增資料否)", flagWord b.insertAllowed],
    row ["Update Allowed(更新資料否)", flagWord b.updateAllowed],
    row ["Delete Allowed(刪除資料否)", flagWord b.deleteAllowed],
    ""] ++
  when (!b.fields.isEmpty) (fieldTable b.fields)

def tabPageLines (pages : List Form.TabPage) : List String :=
  when (!pages.isEmpty) (
    ["## 頁籤", "", row ["Tab Page", "標籤", "Canvas"], rule [10, 6, 8]] ++
    pages.map (fun p => row [p.name, cell p.label, cell p.canvas]) ++ [""])

def buttonLines (buttons : List Button) : List String :=
  when (!buttons.isEmpty) (
    ["## 按鈕", "", row ["按鈕名稱", "標籤", "說明"], rule [10, 6, 6]] ++
    buttons.map (fun b => row [b.name, cell b.label, cell b.description]) ++ [""])

/-- The cells of a list of values but the number: one row per column. -/
def lovCells (l : Lov) : List (List String) :=
  if l.columns.isEmpty then [[l.name, cell l.recordGroup, "-", "-"]]
  else l.columns.map (fun c => [l.name, cell l.recordGroup, c.name, cell c.returnItem])

/-- The section of lists of values. -/
def lovLines (lovs : List Lov) : List String :=
  when (!lovs.isEmpty) (
    ["## LOV", "",
      "- A. Name：List of Value 名稱",
      "- B. Record Group Name：LOV 的資料來源",
      "- C. LOV Column Name：LOV 顯示的欄位",
      "- D. Return Item：點選 LOV 後回傳至畫面對應的欄位",
      "",
      row ["No", "Name", "Record Group Name", "LOV Column Name", "Return Item"],
      rule [4, 6, 19, 17, 13]] ++
    (lovs.flatMap lovCells).zipIdx.map (fun (cells, i) => row (toString (i + 1) :: cells)) ++ [""])

/-- A block of text that is shown as it is. -/
def fenced (language : String) (lines : List String) : List String :=
  ("\x60\x60\x60" ++ language) :: lines ++ ["\x60\x60\x60", ""]

def recordGroupLines (groups : List Form.RecordGroup) : List String :=
  when (!groups.isEmpty) (
    ["## Record Group", ""] ++
    groups.flatMap (fun g => ["### " ++ g.name, ""] ++ fenced "sql" [g.query]))

def triggerCells (t : Trigger.Analysis) : List String :=
  [toString t.number, t.name, cell t.event.description, cell t.summary]

def formTriggerTable (triggers : List Trigger.Analysis) : List String :=
  [row ["No", "名稱", "事件描述", "業務規則摘要"], rule [4, 6, 10, 14]] ++
  triggers.map (fun t => row (triggerCells t)) ++ [""]

def blockTriggerTable (triggers : List Trigger.Analysis) : List String :=
  [row ["No", "名稱", "事件描述", "業務規則", "SQL"], rule [4, 6, 10, 10, 5]] ++
  triggers.map (fun t =>
    row (triggerCells t ++ [if t.statements.isEmpty then "-" else "✓"])) ++ [""]

def ruleLine (r : Trigger.Rule) : String :=
  let note := if r.affected.isEmpty then ""
    else " (影響欄位: " ++ String.intercalate ", " r.affected ++ ")"
  "- [" ++ r.kind.word ++ "] " ++ r.description ++ note

/-- The rules and statements of a trigger. -/
def detailLines (t : Trigger.Analysis) : List String :=
  let place := if t.block == "" then "" else " (Block: " ++ t.block ++ ")"
  ["#### " ++ toString t.number ++ ". " ++ t.name ++ place,
    "",
    "- **事件描述:** " ++ t.event.description,
    "- **Java 用途:** " ++ t.event.purpose,
    "- **Maximo Java 位置:** \x60" ++ t.event.location ++ "\x60",
    ""] ++
  when (!t.rules.isEmpty) (["**業務規則:**", ""] ++ t.rules.map ruleLine ++ [""]) ++
  when (!t.statements.isEmpty) (
    ["**SQL 語句:**", ""] ++
    fenced "sql" (t.statements.flatMap (fun s => ["-- " ++ s.kind.word, s.text])))

def triggerLines (s : Trigger.Section) : List String :=
  let detailed := s.all.filter (fun t => !t.rules.isEmpty || !t.statements.isEmpty)
  when (s.count != 0) (
    ["## 觸發器規則", "", "### 統計摘要", "",
      row ["項目", "數量"],
      rule [6, 6],
      row ["總數", toString s.count],
      row ["Form 層級", toString s.form.length],
      row ["Block 層級", toString s.blockCount],
      ""] ++
    when (!s.form.isEmpty) (["### Form 層級觸發器", ""] ++ formTriggerTable s.form) ++
    s.blocks.flatMap (fun (name, triggers) =>
      ["### Block: " ++ name, ""] ++ blockTriggerTable triggers) ++
    when (!detailed.isEmpty) ["### 詳細業務規則", ""] ++
    detailed.flatMap detailLines)

def diagramLines (diagram : String) : List String :=
  when (diagram != "") (["## ER Diagram", ""] ++ fenced "mermaid" [diagram])

/-- The document of a specification, with a diagram if it is not empty. -/
def document (s : FormSpec) (diagram : String) : String :=
  String.intercalate "\n" (
    ["# " ++ s.name ++ " 功能規格說明",
      "",
      "**程式名稱:** " ++ Form.orText s.title "N/A",
      "",
      "**功能說明:** " ++ Form.orText s.purpose "-",
      ""] ++
    s.blocks.zipIdx.flatMap (fun (b, i) => blockLines (i + 1) b) ++
    tabPageLines s.tabPages ++
    buttonLines s.buttons ++
    lovLines s.lovs ++
    recordGroupLines s.recordGroups ++
    triggerLines s.triggers ++
    diagramLines diagram)

end Formwork.Spec.Markdown
