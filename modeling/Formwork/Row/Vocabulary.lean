import Formwork.Value.Coerce

/-!
The closed vocabularies of a row: its control, input mode, area and storage type. Each is read
leniently: a known word is recognised whatever the case of its letters and the blanks around it, and
an unknown word is kept as it is.
-/
namespace Formwork

/-- A set of known words, open to unknown ones. -/
class Vocabulary (α : Type) where
  /-- The known members, in order. -/
  members : List α
  word : α → String
  other : String → α

namespace Vocabulary

variable {α : Type} [Vocabulary α]

/-- The known member that a text names. -/
def known? (text : String) : Option α :=
  members.find? (fun m => text == word m || Text.lower text == Text.lower (word m))

/-- The member that a value names; `missing` when there is no value. -/
def read (missing : α) : Value → α
  | .null => missing
  | v =>
    let text := Text.trim v.toText
    (known? text).getD (other text)

/-- The member whose word is exactly the text. -/
def ofWord (text : String) : α :=
  ((members (α := α)).find? (fun m => word m == text)).getD (other text)

end Vocabulary

/-- The kind of control that shows a field. -/
inductive Control where
  | textbox
  | checkbox
  | tablecol
  /-- A text box with a description beside it. -/
  | multipartTextbox
  /-- A text box of several lines. -/
  | multilineTextbox
  /-- A text that cannot be edited. -/
  | staticText
  | pushButton
  | attachments
  | combobox
  | other (word : String)
  deriving Repr, DecidableEq, Inhabited

def Control.word : Control → String
  | .textbox => "textbox"
  | .checkbox => "checkbox"
  | .tablecol => "tablecol"
  | .multipartTextbox => "multiparttextbox"
  | .multilineTextbox => "multilinetextbox"
  | .staticText => "statictext"
  | .pushButton => "pushbutton"
  | .attachments => "attachments"
  | .combobox => "combobox"
  | .other word => word

instance : Vocabulary Control where
  members := [.textbox, .checkbox, .tablecol, .multipartTextbox, .multilineTextbox, .staticText,
    .pushButton, .attachments, .combobox]
  word := Control.word
  other := .other

/-- How a field takes input. -/
inductive InputMode where
  /-- A value may be given. -/
  | optional
  /-- A value must be given. -/
  | required
  /-- The value cannot be changed. -/
  | readonly
  /-- The field takes a search condition. -/
  | query
  | other (word : String)
  deriving Repr, DecidableEq, Inhabited

def InputMode.word : InputMode → String
  | .optional => "optional"
  | .required => "required"
  | .readonly => "readonly"
  | .query => "query"
  | .other word => word

instance : Vocabulary InputMode where
  members := [.optional, .required, .readonly, .query]
  word := InputMode.word
  other := .other

/-- The part of the application that a row belongs to. -/
inductive Area where
  | header
  | detail
  | list
  | other (word : String)
  deriving Repr, DecidableEq, Inhabited

def Area.word : Area → String
  | .header => "header"
  | .detail => "detail"
  | .list => "list"
  | .other word => word

instance : Vocabulary Area where
  members := [.header, .detail, .list]
  word := Area.word
  other := .other

/-- The type under which an attribute is stored. -/
inductive StorageType where
  | aln
  | upper
  | lower
  | integer
  /-- A small whole number. -/
  | smallint
  | decimal
  | float
  | amount
  | date
  | datetime
  | time
  /-- Yes or no. -/
  | yorn
  /-- A text of any length. -/
  | clob
  | longaln
  /-- A ledger account. -/
  | gl
  | other (word : String)
  deriving Repr, DecidableEq, Inhabited

def StorageType.word : StorageType → String
  | .aln => "ALN"
  | .upper => "UPPER"
  | .lower => "LOWER"
  | .integer => "INTEGER"
  | .smallint => "SMALLINT"
  | .decimal => "DECIMAL"
  | .float => "FLOAT"
  | .amount => "AMOUNT"
  | .date => "DATE"
  | .datetime => "DATETIME"
  | .time => "TIME"
  | .yorn => "YORN"
  | .clob => "CLOB"
  | .longaln => "LONGALN"
  | .gl => "GL"
  | .other word => word

instance : Vocabulary StorageType where
  members := [.aln, .upper, .lower, .integer, .smallint, .decimal, .float, .amount, .date,
    .datetime, .time, .yorn, .clob, .longaln, .gl]
  word := StorageType.word
  other := .other

end Formwork
