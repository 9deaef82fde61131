import Formwork.Trigger.Statement

/-!
Rules. What the program of a trigger does is told by rules: it validates, sets items by functions,
calculates, navigates, joins master and detail, or checks before deleting. A program that shows none
of these has one rule of its own. The summary of a trigger names the kinds of its rules.
-/
namespace Formwork.Trigger

open Text.Match

inductive RuleKind where
  | validation
  /-- An item is set by a function. -/
  | autoPopulate
  /-- An item is calculated from others. -/
  | calculation
  /-- The focus moves. -/
  | navigation
  | masterDetail
  | deleteCheck
  | custom
  deriving Repr, DecidableEq, Inhabited

def RuleKind.word : RuleKind → String
  | .validation => "VALIDATION"
  | .autoPopulate => "AUTO_POPULATE"
  | .calculation => "CALCULATION"
  | .navigation => "NAVIGATION"
  | .masterDetail => "MASTER_DETAIL"
  | .deleteCheck => "DELETE_CHECK"
  | .custom => "CUSTOM"

structure Rule where
  kind : RuleKind
  description : String
  affected : List String := []
  deriving Repr, BEq, Inhabited

/-- The items that a program refers to, each once; those of the system are left out. -/
def affectedItems (body : String) : List String :=
  let reference : Rest (List Char × List Char) := sign ':' <| dottedName fun item => found item
  let items := (findAll (fun _ => reference) body.toList).map (fun m => String.ofList m.value)
  distinct (items.filter (fun item =>
    let word := Text.lower item
    !(Text.beginsWith word "system." || Text.beginsWith word "global.")))

/-- A text between single quotes that is not empty. -/
def quotedText {α : Type} (k : List Char → Rest α) : Rest α :=
  sign '\x27' <| many1 (· != '\x27') fun s => sign '\x27' <| k s

/-- An alert whose second argument is a message. -/
def alertMatch (alert : String) : Rest (List Char × List Char) :=
  word alert <| blanks <| sign '(' <| many1 (· != ',') fun _ => sign ',' <| blanks <|
    quotedText fun message => found message

/-- An alert whose only argument is a message. -/
def messageMatch : Rest (List Char × List Char) :=
  word "show_alert_message" <| blanks <| sign '(' <| quotedText fun message => found message

/-- The condition between the words `if` and `then`. -/
def conditionMatch : Rest (List Char × List Char) :=
  word "if" <| blanks1 <| few1 (fun _ => true) fun condition => blanks1 <| word "then" <|
    found condition

/-- What the first match of a form reads. -/
def firstOf (m : Rest (List Char × List Char)) (body : List Char) : Option (List Char) :=
  (find? (fun _ => m) body).map (·.value)

/-- What a program validates: the message that it shows, or else its first condition. -/
def validationText (body : List Char) : String :=
  match firstOf (alertMatch "s_alert") body <|> firstOf (alertMatch "show_alert") body <|>
      firstOf messageMatch body with
  | some message => "驗證規則: " ++ String.ofList message
  | none =>
    match firstOf conditionMatch body with
    | some condition => "驗證條件: " ++ String.ofList ((trimmed condition).toList.take 50)
    | none => "資料驗證"

/-- The setting of an item by a function that is not a constant. -/
def populateMatch : Rest (List Char × List Char) :=
  let isConstant (cs : List Char) : Bool :=
    ["null", "true", "false"].any (fun w => (word w (fun _ => some ()) cs).isSome) ||
      cs.head? == some ':'
  sign ':' <| dottedName fun item => blanks <| sign ':' <| sign '=' <| blanks <| fun cs =>
    if isConstant cs then none else (name fun _ => blanks <| sign '(' <| found item) cs

/-- The characters of names with points. -/
def isReferenceChar (c : Char) : Bool :=
  Text.isWordChar c || c == '.'

/-- The calculation of an item from two others. -/
def calculationMatch : Rest (List Char × List Char) :=
  sign ':' <| dottedName fun item => blanks <| sign ':' <| sign '=' <| blanks <| sign ':' <|
    many1 isReferenceChar fun _ => blanks <| one (fun c => "+-*/".toList.contains c) <| blanks <|
    sign ':' <| many1 isReferenceChar fun _ => found item

def navigationWords : List String :=
  ["go_block", "go_item", "next_block", "previous_block", "next_item", "previous_item"]

/-- A cursor whose condition compares with an item. -/
def masterDetailMatch : Rest (Unit × List Char) :=
  word "cursor" <| blanks1 <| name fun _ => blanks1 <| word "is" <| blanks1 <| word "select" <|
    gap fun _ => word "where" <| gap fun _ => sign '=' <| blanks <| sign ':' <|
    dottedName fun _ => found ()

/-- What the rule of a trigger is called when its program shows no known rule. -/
def customText (event : String) : String :=
  let known := [("BUTTON", "按鈕事件處理"), ("QUERY", "查詢處理"), ("INSERT", "新增前/後處理"),
    ("UPDATE", "更新前/後處理"), ("DELETE", "刪除前/後處理")]
  ((known.find? (fun (key, _) => Text.hasPart (Text.upper event) key)).map (·.2)).getD
    "自定義邏輯處理"

/-- The rules that a program shows. -/
def shownRules (body event : String) : List Rule :=
  let cs := body.toList
  let small := Text.lower body
  let has (part : String) : Bool := Text.hasPart small part
  let validates := has "raise form_trigger_failure" || has "s_alert" || has "show_alert"
  let ruleIf (condition : Bool) (rule : Rule) : List Rule := if condition then [rule] else []
  ruleIf validates
    { kind := .validation, description := validationText cs, affected := affectedItems body } ++
  (findAll (fun _ => populateMatch) cs).map (fun m =>
    let item := String.ofList m.value
    { kind := .autoPopulate, description := "自動產生 " ++ item ++ " 的值", affected := [item] }) ++
  (findAll (fun _ => calculationMatch) cs).map (fun m =>
    let item := String.ofList m.value
    { kind := .calculation, description := "計算 " ++ item ++ " 的值", affected := [item] }) ++
  ruleIf (navigationWords.any (fun w => occurs w cs))
    { kind := .navigation, description := "導航至指定區塊或欄位" } ++
  ruleIf (find? (fun _ => masterDetailMatch) cs).isSome
    { kind := .masterDetail, description := "主從關聯資料處理", affected := affectedItems body } ++
  ruleIf (Text.upper event == "PRE-DELETE" && has "select" && has "count")
    { kind := .deleteCheck, description := "刪除前檢查關聯資料" }

def rules (body event : String) : List Rule :=
  if isSimple body then []
  else
    let shown := shownRules body event
    if shown.isEmpty then
      [{ kind := .custom, description := customText event, affected := affectedItems body }]
    else shown

/-- The kinds of rules that a summary names, with their labels. -/
def summaryLabels : List (RuleKind × String) :=
  [(.validation, "資料驗證"), (.autoPopulate, "自動產生"), (.calculation, "欄位計算"),
    (.navigation, "導航控制"), (.masterDetail, "主從關聯"), (.deleteCheck, "刪除檢查")]

/-- The part of an item's name after its last point. -/
def lastPart (item : String) : String :=
  String.ofList ((item.toList.reverse.takeWhile (· != '.')).reverse)

/-- The label of a kind of rule in a summary, with the items that are set. -/
def labelFor (rules : List Rule) (kind : RuleKind) (label : String) : String :=
  if kind == .autoPopulate then
    let items := (rules.filter (·.kind == kind)).flatMap (·.affected)
    let names := String.intercalate ", " (items.map lastPart)
    if names == "" then label else label ++ " (" ++ names ++ ")"
  else label

def summaryOf (rules : List Rule) : String :=
  if rules.isEmpty then "無特殊處理"
  else
    let labels := (summaryLabels.filter (fun (kind, _) => rules.any (·.kind == kind))).map
      (fun (kind, label) => labelFor rules kind label)
    if labels.isEmpty then
      ((rules.find? (·.kind == .custom)).map (·.description)).getD "自定義邏輯"
    else String.intercalate "、" labels

/-- Whether a text begins with a form. -/
def beginsLike (m : Rest Unit → Rest Unit) (s : String) : Bool :=
  (m (fun _ => some ()) s.toList).isSome

/-- What a program does, in one line. -/
def summary (body event : String) : String :=
  let text := Text.trim body
  if isAll (fun k => word "null" <| blanks <| optional (sign ';') k) text then "無特殊處理"
  else if beginsLike (fun k => word "do_key" <| blanks <| sign '(' k) text then "系統按鍵操作"
  else summaryOf (rules body event)

end Formwork.Trigger
