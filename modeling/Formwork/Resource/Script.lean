import Formwork.Markup.Printer
import Formwork.Resource.Definition

/-!
The resource script: a document with an envelope and one element for every table and relationship.
-/
namespace Formwork.Resource

structure Envelope where
  author : String := ""
  scriptname : String := ""
  description : String := ""
  deriving Repr, BEq, Inhabited

structure Script where
  envelope : Envelope
  tables : List TableDefinition
  relationships : List RelationshipDefinition
  deriving Repr, BEq, Inhabited

/-- Object and attribute of every definition but the generated keys. -/
def Script.bindings (s : Script) : List String :=
  s.tables.flatMap (fun t =>
    (t.attributes.filter (fun a =>
      !(a.maxtype == keyType && Text.finishesWith a.name "ID"))).map
      (fun a => t.object ++ "." ++ a.name))

/-- The length that an attribute element shows: texts have one. -/
def AttributeDefinition.shownLength (a : AttributeDefinition) : Option Int :=
  if textTypes.contains a.maxtype then a.length else none

/-- Whether the length that is shown has more digits than are written. -/
def AttributeDefinition.isOverlong (a : AttributeDefinition) : Bool :=
  a.shownLength.any exceedsDigits

def attributeElement (a : AttributeDefinition) : Element :=
  .node "attrdef" (givenAttributes [
    ("attribute", a.name),
    ("maxtype", a.maxtype),
    ("length", (a.shownLength.map toString).getD ""),
    ("title", a.title),
    ("remarks", a.remarks),
    ("required", if a.required then "true" else "false"),
    ("persistent", if a.persistent then "" else "false")]) []

def tableElement (t : TableDefinition) : Element :=
  let attributes := t.attributes.map attributeElement
  if t.existing then .node "add_attributes" [("object", t.object)] attributes
  else
    .node "define_table" (givenAttributes [
      ("object", t.object),
      ("description", t.description),
      ("type", t.type),
      ("primarykey", t.primaryKey),
      ("classname", t.classname),
      ("service", t.service)]) attributes

def relationshipElement (r : RelationshipDefinition) : Element :=
  .node "create_relationship" [
    ("name", r.name),
    ("parent", r.parent),
    ("child", r.child),
    ("whereclause", r.whereclause),
    ("remarks", r.remarks)] []

def Script.document (s : Script) : Element :=
  let elements := s.tables.map tableElement ++ s.relationships.map relationshipElement
  .node "script" (givenAttributes [
    ("author", s.envelope.author),
    ("scriptname", s.envelope.scriptname),
    ("description", s.envelope.description)])
    (if elements.isEmpty then [] else [.node "statements" [] elements])

/-- The document type of scripts. -/
def doctype : String := "<!DOCTYPE script SYSTEM \"script.dtd\">"

def Script.text (s : Script) : String :=
  Markup.documentText doctype "  " s.document

/-- The text of a script, refused where a length has more digits than are written. -/
def Script.write (s : Script) : Except Error String :=
  if s.tables.any (·.attributes.any (·.isOverlong)) then .error .overlong else .ok s.text

/-- A resource script with its text and the name for its file. -/
structure Result where
  content : String
  script : Script
  filename : String
  deriving Repr, BEq, Inhabited

/-- The first of two texts that is not empty. -/
def textOr (a b : String) : String :=
  if a == "" then b else a

/-- The script for rows, with what the envelope gives replacing the defaults. Blocking problems are
refused. -/
def generate (s : Settings) (m : Metadata) (moduleName title : String) (envelope : Envelope)
    (rows : List Row) : Except Error Result := do
  Row.requireSound (some m) rows
  let (tables, relationships) := definitions s m title rows
  let script : Script :=
    { envelope :=
        { author := textOr envelope.author (s.wording "dbc" "author")
          scriptname := textOr envelope.scriptname (m.record ++ "_SETUP")
          description := textOr envelope.description (s.wording "dbc" "description") }
      tables
      relationships }
  let content ← script.write
  .ok { content, script, filename := textOr moduleName m.record ++ "_dbc.dbc" }

end Formwork.Resource
