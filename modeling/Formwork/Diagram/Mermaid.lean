import Formwork.Diagram.Basic

/-!
Diagrams in the Mermaid language. Relationships come first and entities after them; both are named
by tables, so that an entity without a table is left out with its relationships.
-/
namespace Formwork.Diagram

/-- The word for the type of a field: blanks are joined by underscores. -/
def typeWord (type : String) : String :=
  let word := String.ofList (Text.joinBlanks '_' (Text.trim type).toList)
  if word == "" then "Char" else word

/-- The table of the last entity with an id. -/
def tableOf (d : Diagram) (id : String) : String :=
  ((d.entities.reverse.find? (·.id == id)).map (·.table)).getD ""

/-- The line of a relationship between two tables. -/
def relationshipLine (source target : String) (r : Relationship) : String :=
  let arrow := if r.line == .dashed then "||..o\x7b" else "||--o\x7b"
  let label := if r.label == "" then "has" else r.label
  "    " ++ source ++ " " ++ arrow ++ " " ++ target ++ " : \"" ++ label ++ "\""

def roleMark : Role → String
  | .primaryKey => " PK"
  | .foreignKey => " FK"
  | _ => ""

def fieldLine (f : Field) : String :=
  "        " ++ typeWord f.dataType ++ " " ++ f.name ++ roleMark f.role

def entityLines (e : Entity) : List String :=
  ["    " ++ e.table ++ " \x7b"] ++ e.fields.map fieldLine ++ ["    \x7d"]

def mermaid (d : Diagram) : String :=
  let shown := d.visible
  let relationships := shown.relationships.filterMap (fun r =>
    let source := tableOf d r.source
    let target := tableOf d r.target
    if source == "" || target == "" then none else some (relationshipLine source target r))
  let entities := (shown.entities.filter (·.table != "")).flatMap entityLines
  String.intercalate "\n" ("erDiagram" :: relationships ++ entities)

end Formwork.Diagram
