import Formwork.Application.Metadata
import Formwork.Schema.Column
import Formwork.Text.Part

/-!
Definitions of tables. The custom fields of an application define attributes: those of the header
belong to the primary record, those of a detail table to the record of its relationship, and those
that name an object to that object. A new record is defined with a key of its own; a record of the
vendor only gets the attributes added. Detail tables are related to the primary record.
-/
namespace Formwork.Resource

structure AttributeDefinition where
  /-- The name, in upper case. -/
  name : String
  maxtype : String
  title : String
  remarks : String := ""
  required : Bool := false
  /-- The length, where the type has one. -/
  length : Option Int := none
  /-- Whether the attribute has a column in storage. -/
  persistent : Bool := true
  deriving Repr, BEq, Inhabited

/-- The definition of a table, or of additions to one that exists. -/
structure TableDefinition where
  object : String
  description : String
  /-- The key attribute; empty for additions. -/
  primaryKey : String
  attributes : List AttributeDefinition
  /-- Whether the table exists already. -/
  existing : Bool
  type : String
  classname : String
  service : String
  deriving Repr, BEq, Inhabited

structure RelationshipDefinition where
  name : String
  /-- The object from which it leads. -/
  parent : String
  /-- The object to which it leads. -/
  child : String
  /-- The condition that joins the two. -/
  whereclause : String
  remarks : String
  deriving Repr, BEq, Inhabited

/-- Parts of names that suggest an amount of money. -/
def amountParts : List String := ["AMT", "AMOUNT", "PRICE", "COST"]

/-- The types of attributes that hold text and have a length. -/
def textTypes : List String := ["ALN", "UPPER", "LOWER", "LONGALN"]

def keyType : String := "BIGINT"

/-- The type of an attribute: decimals named like money are amounts, and unknown types are texts. -/
def attributeType (t : StorageType) (name : String) : String :=
  if t == .decimal && amountParts.any (Text.hasPart (Text.upper name)) then "AMOUNT"
  else match t with
    | .other _ => "ALN"
    | t => t.word

/-- The definition that a row gives. -/
def attributeOf (r : Row) : AttributeDefinition :=
  let name := Text.upper r.fieldName.words
  let type := attributeType r.maxType name
  { name
    maxtype := type
    title := (r.title.orElse (r.label.orElse (.text name))).plain
    remarks := (r.label.orElse r.title).words
    required := r.dbRequired
    length := if textTypes.contains type && r.length != 0 then some r.length else none
    persistent := r.persistent }

/-- The definitions that rows give, the first row of a name counting. -/
def attributesOf (rows : List Row) : List AttributeDefinition :=
  (firsts (fun r : Row => Text.upper r.fieldName.words) rows).map attributeOf

/-- The name of the generated key of an object. -/
def keyName (object : String) : String :=
  object ++ "ID"

def keyAttribute (object : String) : AttributeDefinition :=
  { name := keyName object
    maxtype := keyType
    title := object ++ " ID"
    remarks := "主鍵"
    required := true }

/-- A table without the attributes of its rows. -/
def emptyTable (s : Settings) (object description : String) (existing : Bool) : TableDefinition :=
  { object
    description
    primaryKey := if existing then "" else keyName object
    attributes := if existing then [] else [keyAttribute object]
    existing
    type := s.wording "dbc" "table_type"
    classname := s.wording "dbc" "classname"
    service := s.wording "dbc" "service" }

/-- A table with attributes after its own. -/
def TableDefinition.extend (t : TableDefinition) (more : List AttributeDefinition) :
    TableDefinition :=
  { t with attributes := t.attributes ++ more }

/-- The field that identifies a primary record: the first required one of the header, else the
first. -/
def primaryKey (header : List Row) : String :=
  match header.find? (·.dbRequired) with
  | some r => r.fieldName.words
  | none => (header.head?.map (·.fieldName.words)).getD "ID"

/-- The relationship from a record to a detail table. -/
def relationshipTo (record key name : String) : RelationshipDefinition :=
  { name
    parent := record
    child := name
    whereclause := key ++ " = :" ++ key
    remarks := record ++ " 與 " ++ name ++ " 的關聯" }

/-- Add the attributes that rows give to one object. Those of the primary record join its table when
that comes first, as far as it does not have them already. -/
def addRouted (s : Settings) (m : Metadata) (tables : List TableDefinition)
    (group : String × List Row) : List TableDefinition :=
  let (object, rows) := group
  let more := attributesOf rows
  let separate := tables ++ [(emptyTable s object object m.isStandard).extend more]
  match tables with
  | [] => separate
  | first :: rest =>
    if object == m.record && first.object == m.record then
      first.extend (more.filter (fun a => !(first.attributes.any (·.name == a.name))))
        :: rest
    else separate

/-- The tables and relationships that rows define. -/
def definitions (s : Settings) (m : Metadata) (title : String) (rows : List Row) :
    List TableDefinition × List RelationshipDefinition :=
  let record := m.record
  let custom := rows.filter (fun r => r.area != .list && r.isCustom s (some m))
  let header := custom.filter (fun r =>
    r.area == .header && !r.objectName.truthy && !r.relationship.truthy)
  let routed := classes (fun r : Row => Text.upper r.objectName.words)
    (custom.filter (·.objectName.truthy))
  let details := classes (fun r : Row => Text.upper r.relationship.words)
    (custom.filter (fun r => !r.objectName.truthy && r.area == .detail && r.relationship.truthy))
  let main := (emptyTable s record (if title == "" then record else title) m.isStandard).extend
    (attributesOf header)
  let mains := if header.isEmpty && m.isStandard then [] else [main]
  let key := Text.lower (primaryKey
    (rows.filter (fun r => r.area == .header && r.fieldName.truthy)))
  let children := details.map (fun (name, members) =>
    (emptyTable s name (record ++ " - " ++ name) false).extend (attributesOf members))
  (routed.foldl (addRouted s m) (mains ++ children),
    details.map (fun (name, _) => relationshipTo record key name))

end Formwork.Resource
