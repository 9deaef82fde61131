import Formwork.Row.Check
import Formwork.Settings

/-!
Metadata of an application: its record and how the page presents it. Where the record belongs to the
vendor, only attributes whose names carry the mark of custom names are created; of a new record
every attribute is.
-/
namespace Formwork

/-- What is known of an application besides its rows. -/
structure Metadata where
  id : Value := .text ""
  keyAttribute : Value := .text ""
  recordName : Value := .text "SR"
  version : Value := .text "7.6.1.2"
  orderBy : Value := .text ""
  whereClause : Value := .text ""
  /-- The class that drives the page. -/
  beanclass : Value := .text ""
  /-- Whether the primary record belongs to the vendor. -/
  isStandard : Bool := true
  deriving Repr, BEq, Inhabited

namespace Metadata

def ofValue (v : Value) : Except Error Metadata := do
  let given ← Record.given v
  let text := Record.text given
  .ok {
    id := text "id" ""
    keyAttribute := text "key_attribute" ""
    recordName := text "mbo_name" "SR"
    version := text "version" "7.6.1.2"
    orderBy := text "order_by" ""
    whereClause := text "where_clause" ""
    beanclass := text "beanclass" ""
    isStandard := ((lastValue? "is_standard_object" given).getD (.bool true)).flagOr true }

def toPairs (m : Metadata) : List (String × Value) :=
  [("id", m.id), ("key_attribute", m.keyAttribute), ("mbo_name", m.recordName),
    ("version", m.version), ("order_by", m.orderBy), ("where_clause", m.whereClause),
    ("beanclass", m.beanclass), ("is_standard_object", .bool m.isStandard)]

/-- The primary record in upper case. -/
def record (m : Metadata) : String :=
  Text.upper m.recordName.words

end Metadata

/-- The mark that derived names get: none for the attributes of a new record. -/
def namingMark (s : Settings) (m : Option Metadata) : String :=
  if m.any (fun m => !m.isStandard) then "" else s.customMark

namespace Row

/-- The rows with names, derived from the labels where they have none. -/
def resolveAll (s : Settings) (m : Option Metadata) (rows : List Row) : List Row :=
  rows.map (resolve (namingMark s m))

/-- Whether it takes the settings to tell if the attribute of a row has to be created: whether its
name has to be compared with the mark of custom names. -/
def needsMark (m : Metadata) (r : Row) : Bool :=
  m.isStandard && r.fieldName.truthy && r.isData

/-- Whether the attribute of a row has to be created. -/
def isCustom (s : Settings) (m : Option Metadata) (r : Row) : Bool :=
  r.fieldName.truthy && r.isData &&
    (m.any (fun m => !m.isStandard) || isMarked s.customMark r.fieldName.words)

/-- The object on which the page looks for the attribute of a row. -/
def owner (record : String) (r : Row) : String :=
  if r.objectName.truthy then Text.upper r.objectName.words
  else match r.area with
    | .detail => Text.upper r.relationship.words
    | .header =>
      if r.relationship.truthy then Text.upper r.relationship.words else Text.upper record
    | _ => Text.upper record

/-- The object to which the schema script adds the attribute of a row; empty when it is not known,
because the row only names a relationship. -/
def target (record : String) (r : Row) : String :=
  if r.objectName.truthy then Text.upper r.objectName.words
  else if r.relationship.truthy then ""
  else Text.upper record

/-- Everything that keeps rows and metadata from being generated: the primary record, the presence
of rows, and the problems of the single rows. -/
def blocking (m : Option Metadata) (rows : List Row) : List Blocking :=
  (if m.all (fun m => Text.isBlankText m.recordName.words) then [.noRecordName] else []) ++
  (if rows.isEmpty then [.noRows] else []) ++
  rows.zipIdx.flatMap (fun (r, i) =>
    let name := (r.fieldName.orElse (r.label.orElse (.text "unnamed"))).plain
    r.problems.map (.row (i + 1) name))

/-- Fail with all blocking problems, if there are any. -/
def requireSound (m : Option Metadata) (rows : List Row) : Except Error Unit :=
  let problems := blocking m rows
  if problems.isEmpty then .ok () else .error (.blocked problems)

end Row

end Formwork
