import Formwork.Row.Vocabulary

/-!
Diagrams of entities and relationships. An entity is a block of a form, or an external record that
blocks look values up in. Whether external entities are shown is a property of the diagram.
-/
namespace Formwork.Diagram

/-- The role of a field in its entity. -/
inductive Role where
  /-- It identifies the records. -/
  | primaryKey
  /-- It refers to another entity. -/
  | foreignKey
  | required
  | plain
  deriving Repr, DecidableEq, Inhabited

def Role.word : Role → String
  | .primaryKey => "primary-key"
  | .foreignKey => "foreign-key"
  | .required => "required"
  | .plain => "plain"

def Role.ofWord (word : String) : Role :=
  ([Role.primaryKey, .foreignKey, .required].find? (·.word == word)).getD .plain

inductive EntityKind where
  | header
  | detail
  /-- A record outside the form. -/
  | external
  deriving Repr, DecidableEq, Inhabited

def EntityKind.word : EntityKind → String
  | .header => "header"
  | .detail => "detail"
  | .external => "external"

def EntityKind.ofWord (word : String) : EntityKind :=
  ([EntityKind.header, .external].find? (·.word == word)).getD .detail

inductive Line where
  /-- A line for ownership. -/
  | solid
  /-- A line for a look-up. -/
  | dashed
  deriving Repr, DecidableEq, Inhabited

def Line.word : Line → String
  | .solid => "solid"
  | .dashed => "dashed"

def Line.ofWord (word : String) : Line :=
  if word == Line.dashed.word then .dashed else .solid

structure Field where
  name : String
  dataType : String := "Char"
  role : Role := .plain
  /-- The list of values to choose from. -/
  lovName : String := ""
  deriving Repr, BEq, Inhabited

structure Entity where
  id : String
  /-- Its block; empty for an external entity. -/
  block : String := ""
  table : String := ""
  kind : EntityKind := .detail
  fields : List Field := []
  deriving Repr, BEq, Inhabited

/-- A relationship from one entity to many records of another. -/
structure Relationship where
  id : String
  /-- The id of the entity from which it leads. -/
  source : String
  /-- The id of the entity to which it leads. -/
  target : String
  line : Line := .solid
  label : String := ""
  deriving Repr, BEq, Inhabited

end Formwork.Diagram

namespace Formwork

structure Diagram where
  entities : List Diagram.Entity := []
  relationships : List Diagram.Relationship := []
  formName : String := ""
  /-- Whether external entities are shown. -/
  showExternal : Bool := false
  deriving Repr, BEq, Inhabited

namespace Diagram

/-- The first entity with an id. -/
def find? (d : Diagram) (id : String) : Option Entity :=
  d.entities.find? (·.id == id)

/-- The part of a diagram that is shown: the entities of the kinds to show, and the relationships
between them. -/
def visible (d : Diagram) : Diagram :=
  let entities := d.entities.filter (fun e => d.showExternal || e.kind != .external)
  let shown (id : String) : Bool := entities.any (·.id == id)
  { d with
    entities
    relationships := d.relationships.filter (fun r => shown r.source && shown r.target) }

end Formwork.Diagram
