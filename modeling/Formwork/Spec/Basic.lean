import Formwork.Form.Reader
import Formwork.Trigger.Analysis

/-!
The functional specification of a form: what a reader needs to know of its blocks, buttons, lists of
values, record groups, tab pages and triggers. What the form does not say itself is inferred from
names and labels.
-/
namespace Formwork.Spec

structure Field where
  number : Nat
  /-- The text before it. -/
  prompt : String
  column : String
  type : ItemType
  displayed : Bool
  dataType : String
  maxLength : Int
  hint : String
  required : Bool
  /-- What happens to the case of letters. -/
  caseRestriction : String
  /-- The list of values to choose from. -/
  lovName : String
  formatMask : String
  /-- Whether it takes input in an old record. -/
  updateAllowed : Bool
  initialValue : String
  remark : String
  canvas : String
  tabPage : String
  x : Int
  y : Int
  deriving Repr, BEq, Inhabited

structure Block where
  name : String
  baseTable : String := ""
  condition : String := ""
  orderBy : String := ""
  /-- Whether records can be added. -/
  insertAllowed : Bool := true
  /-- Whether records can be changed. -/
  updateAllowed : Bool := true
  /-- Whether records can be deleted. -/
  deleteAllowed : Bool := true
  /-- Whether one record is shown at a time, if the form tells. -/
  singleRecord : Option Bool := none
  /-- How many records are shown. -/
  displayCount : Int := 0
  fields : List Field := []
  deriving Repr, BEq, Inhabited

structure Button where
  name : String
  label : String
  /-- What it seems to do. -/
  description : String
  block : String
  deriving Repr, BEq, Inhabited

structure Lov where
  number : Nat
  name : String
  title : String := ""
  recordGroup : String := ""
  query : String := ""
  columns : List Form.LovColumn := []
  deriving Repr, BEq, Inhabited

structure FormSpec where
  name : String
  title : String := ""
  purpose : String := ""
  blocks : List Block := []
  buttons : List Button := []
  lovs : List Lov := []
  recordGroups : List Form.RecordGroup := []
  tabPages : List Form.TabPage := []
  triggers : Trigger.Section := default
  deriving Repr, BEq, Inhabited

/-- The first list of values with a name. -/
def FormSpec.findLov (s : FormSpec) (name : String) : Option Lov :=
  s.lovs.find? (·.name == name)

/-- The first entry whose key is part of one of the texts, in upper case. -/
def inferred (known : List (String × String)) (texts : List String) : Option String :=
  (known.find? (fun (key, _) => texts.any (fun t => Text.hasPart (Text.upper t) key))).map (·.2)

/-- What a button seems to do, by its name and label. -/
def buttonPurpose (name label : String) : String :=
  (inferred [("SUPPORTING", "憑證輸入"), ("LIST", "列印報告表"), ("REPORT", "產生報表"),
    ("PRINT", "列印"), ("HELP", "說明"), ("CERTIFICATE", "憑證")] [name, label]).getD ""

/-- What a form is for, by its name; else its title or name. -/
def formPurpose (name title : String) : String :=
  (inferred [("PCS", "差旅費申請作業"), ("APS", "應付帳款作業"), ("GLS", "總帳作業")]
    [name]).getD (Form.orText title name)

/-- What can be said of an item by its name and type. -/
def itemRemark (i : Form.Item) : String :=
  let name := Text.upper i.name
  let derived := !i.enabled || i.type == .displayItem
  let has := Text.hasPart name
  String.intercalate "；" (
    (if (has "SLIP_NO" || has "_NO") && derived then ["新增存檔時，自動產生流水號"] else []) ++
    (if has "_DATE" && derived then ["新增存檔時，自動產生系統日"] else []) ++
    (if i.lovName == "" then [] else ["資料來源→" ++ i.lovName]))

def Field.ofItem (number : Nat) (i : Form.Item) : Field :=
  let a := i.attributes
  { number
    prompt := Form.orText i.prompt i.label
    column := i.name
    type := i.type
    displayed := i.visible
    dataType := Form.orText i.dataType "Char"
    maxLength := i.maximumLength
    hint := i.hint
    required := i.required
    caseRestriction := Form.orText (a.text "CaseRestriction") "Mixed"
    lovName := i.lovName
    formatMask := Form.orText (a.text "FormatMask") i.hint
    updateAllowed := i.enabled && i.updateAllowed
    initialValue := a.text "InitialValue"
    remark := itemRemark i
    canvas := i.canvas
    tabPage := i.tabPage
    x := i.x
    y := i.y }

def Block.ofBlock (b : Form.Block) : Block :=
  let a := b.attributes
  { name := b.name
    baseTable := b.source
    condition := a.text "WhereClause"
    orderBy := a.text "OrderByClause"
    insertAllowed := a.flag "InsertAllowed" true
    updateAllowed := a.flag "UpdateAllowed" true
    deleteAllowed := a.flag "DeleteAllowed" true
    singleRecord := b.singleRecord
    displayCount := b.displayCount
    fields := b.items.zipIdx.map (fun (i, n) => Field.ofItem (n + 1) i) }

/-- The list of values of a form. -/
def Lov.ofLov (m : Form.Module) (number : Nat) (l : Form.Lov) : Lov :=
  let group := if l.recordGroup == "" then none else m.findRecordGroup l.recordGroup
  { number
    name := l.name
    title := l.title
    recordGroup := l.recordGroup
    query := (group.map (·.query)).getD ""
    columns := l.columns }

def FormSpec.ofModule (s : Settings) (m : Form.Module) : Except Error FormSpec := do
  let skipped ← s.names "legacy" "skip_blocks"
  let triggers ← Trigger.Section.ofModule m
  .ok {
    name := m.name
    title := Form.orText m.title m.name
    purpose := formPurpose m.name m.title
    blocks := (m.blocks.filter (fun b => !skipped.contains b.name)).map Block.ofBlock
    buttons := m.buttons.map (fun b =>
      { name := b.name, label := b.label, description := buttonPurpose b.name b.label
        block := b.block })
    lovs := m.lovs.zipIdx.map (fun (l, n) => Lov.ofLov m (n + 1) l)
    recordGroups := m.recordGroups
    tabPages := m.tabPages
    triggers }

end Formwork.Spec
