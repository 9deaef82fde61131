import Formwork.Row.Basic

/-!
Rows of worksheets. The columns of a worksheet have Chinese headings. Its values are checked more
strictly than those of other rows: an unknown control, area or input mode gives way to the default,
a missing storage type follows from the control, and the title defaults to the label.
-/
namespace Formwork.Worksheet

/-- The headings of a worksheet, each with the attribute that it names. -/
def headings : List (String × String) :=
  [("欄位名稱", "field_name"), ("標籤", "label"), ("型別", "type"), ("輸入模式", "input_mode"),
    ("Lookup", "lookup"), ("關聯", "relationship"), ("連結應用", "applink"), ("寬度", "width"),
    ("可篩選", "filterable"), ("可排序", "sortable"), ("區域", "area"), ("Tab名稱", "tab_name"),
    ("子頁籤", "sub_tab_name"), ("資料類型", "max_type"), ("長度", "length"),
    ("小數位數", "scale"), ("DB必填", "db_required"), ("預設值", "default_value"),
    ("持久化", "persistent"), ("欄位標題", "title"), ("所屬物件", "object_name")]

/-- Whether a mapping is a row of a worksheet: it has one of the headings. -/
def isWorksheetRow (entries : List (Value × Value)) : Bool :=
  headings.any (fun (heading, _) => (Value.lookup? heading entries).isSome)

/-- A cell: nothing reads as the empty text, and texts are trimmed. -/
def cell : Value → Value
  | .null => .text ""
  | .text s => .text (Text.trim s)
  | v => v

/-- The cells of a row by the attributes that they give. -/
def cells (entries : List (Value × Value)) : List (String × Value) :=
  headings.filterMap (fun (heading, name) =>
    (Value.lookup? heading entries).map (fun v => (name, cell v)))

/-- The word in a cell, or the default when it is none of the given words. -/
def wordOr (default : String) (words : List String) (text : String) : String :=
  if words.contains text then text else default

/-- The storage type that a control suggests. -/
def storageOf (control : String) : StorageType :=
  if control == Control.checkbox.word then .yorn
  else if control == Control.multilineTextbox.word then .clob
  else .aln

/-- The attributes that a row of a worksheet gives. -/
def attributes (entries : List (Value × Value)) : Except Error (List (String × Value)) := do
  let cells := cells entries
  let cell name := (cells.lookup name).getD (.text "")
  let shown name := (cell name).showable.map Value.toText
  let controlWords := (Vocabulary.members (α := Control)).map Control.word
  let control := wordOr "textbox" controlWords (Text.lower (← shown "type"))
  let area := wordOr "header" ["header", "detail", "list"] (Text.lower (← shown "area"))
  let inputMode :=
    wordOr "optional" ["required", "readonly", "query"] (Text.lower (← shown "input_mode"))
  let storage := Text.upper (← shown "max_type")
  let storageWords := (Vocabulary.members (α := StorageType)).map StorageType.word
  let length ← (cell "length").integerOr 0
  let scale ← (cell "scale").integerOr 0
  let title := if (cell "title").truthy then cell "title" else cell "label"
  .ok (cells ++ [
    ("type", .text control),
    ("area", .text area),
    ("input_mode", .text inputMode),
    ("max_type", .text (wordOr (storageOf control).word storageWords storage)),
    ("length", .int length),
    ("scale", .int scale),
    ("filterable", .bool ((cell "filterable").flagOr false)),
    ("sortable", .bool ((cell "sortable").flagOr false)),
    ("db_required", .bool ((cell "db_required").flagOr false)),
    ("persistent", .bool ((cell "persistent").flagOr false)),
    ("title", title)])

def row (entries : List (Value × Value)) : Except Error Row := do
  Row.ofPairs (← attributes entries)

end Formwork.Worksheet

namespace Formwork.Row

/-- The row of a mapping, whether it comes from a worksheet or not. -/
def ofAny (entries : List (Value × Value)) : Except Error Row :=
  if Worksheet.isWorksheetRow entries then Worksheet.row entries else ofEntries entries

end Formwork.Row
