import Formwork.Application.Metadata
import Formwork.Schema.Column
import Formwork.Text.Part

/-!
Statements of the schema script. Each custom attribute whose object is known is staged by one
INSERT, built from the first row that names it and numbered from 1000. A custom row that only names
a relationship has no known object; its name is reported instead. There are no statements where a
number in one of them cannot be written out.
-/
namespace Formwork.Schema

/-- A text inside a string literal of SQL: quotes are doubled. -/
def escaped (s : String) : String :=
  Text.replaceChar '\x27' "''" s

/-- A string literal of SQL. -/
def literal (s : String) : String :=
  "'" ++ escaped s ++ "'"

/-- The staging of one attribute. -/
structure Statement where
  /-- The object, in upper case. -/
  objectName : String
  /-- The attribute, in upper case. -/
  attributeName : String
  number : Nat
  row : Row
  deriving Repr, BEq, Inhabited

namespace Statement

/-- Object and attribute in one text. -/
def binding (t : Statement) : String :=
  t.objectName ++ "." ++ t.attributeName

/-- Whether the attribute has a column in storage. -/
def persistent (t : Statement) : Bool :=
  t.row.persistent

def columns : List String :=
  ["OBJECTNAME", "ATTRIBUTENAME", "ATTRIBUTENO", "ALIAS", "MAXTYPE", "LENGTH", "SCALE", "TITLE",
    "REMARKS", "REQUIRED", "PERSISTENT", "USERDEFINED", "DEFAULTVALUE", "CHANGED"]

/-- A truth value as a number of SQL. -/
def bit (b : Bool) : String :=
  if b then "1" else "0"

/-- The type that an INSERT names. -/
def typeWord (t : Statement) : String :=
  if t.row.maxType.word == "" then "ALN" else t.row.maxType.word

/-- The length that an INSERT gives. -/
def length (t : Statement) : Int :=
  StorageType.lengthOr t.row.length (Vocabulary.ofWord t.typeWord : StorageType).defaultLength

/-- Whether a number of an INSERT has more digits than are written. -/
def isOverlong (t : Statement) : Bool :=
  exceedsDigits t.length || exceedsDigits t.row.scale

/-- The values of an INSERT, as SQL texts. -/
def values (t : Statement) : List String :=
  let r := t.row
  [literal t.objectName,
    literal t.attributeName,
    toString t.number,
    literal t.attributeName,
    "'" ++ t.typeWord ++ "'",
    toString t.length,
    toString r.scale,
    literal (r.title.orElse r.label).words,
    literal r.label.words,
    bit r.dbRequired,
    bit r.persistent,
    "1",
    if r.defaultValue.truthy then literal r.defaultValue.words else "NULL",
    "'I'"]

def sql (t : Statement) : String :=
  "INSERT INTO MAXATTRIBUTECFG (" ++ String.intercalate ", " columns ++ ")\nVALUES (" ++
    String.intercalate ", " t.values ++ ");"

end Statement

def firstNumber : Nat := 1000

/-- Object and attribute that a row stands for. -/
def attributeKey (record : String) (r : Row) : String × String :=
  (r.target record, Text.upper r.fieldName.words)

/-- The statements for rows, whatever their numbers, and the names of the rows that have no known
object. -/
def statements (s : Settings) (m : Metadata) (rows : List Row) : List Statement × List Value :=
  let record := m.recordName.words
  let custom := rows.filter (Row.isCustom s (some m))
  let routed := custom.filter (fun r => r.target record != "")
  let first := firsts (attributeKey record) routed
  (first.zipIdx.map (fun (r, i) =>
      let (objectName, attributeName) := attributeKey record r
      { objectName, attributeName, number := firstNumber + i, row := r }),
    (custom.filter (fun r => r.target record == "")).map (·.fieldName))

/-- Stage the attributes of rows: their statements and the names of the rows that have no known
object. A number of more digits than are written is refused. -/
def stage (s : Settings) (m : Metadata) (rows : List Row) :
    Except Error (List Statement × List Value) :=
  let staged := statements s m rows
  if staged.1.any (·.isOverlong) then .error .overlong else .ok staged

end Formwork.Schema
