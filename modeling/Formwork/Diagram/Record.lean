import Formwork.Diagram.Layout
import Formwork.Value

/-!
Diagrams and layouts as data.
-/
namespace Formwork.Diagram

def Field.toValue (f : Field) : Value :=
  .ofPairs [
    ("name", .text f.name),
    ("data_type", .text f.dataType),
    ("role", .text f.role.word),
    ("lov_name", .text f.lovName)]

def Entity.toValue (e : Entity) : Value :=
  .ofPairs [
    ("id", .text e.id),
    ("block_name", .text e.block),
    ("table_name", .text e.table),
    ("entity_type", .text e.kind.word),
    ("fields", .list (e.fields.map Field.toValue))]

def Relationship.toValue (r : Relationship) : Value :=
  .ofPairs [
    ("id", .text r.id),
    ("source_entity_id", .text r.source),
    ("target_entity_id", .text r.target),
    ("cardinality", .text "1:N"),
    ("line_style", .text r.line.word),
    ("label", .text r.label)]

def toValue (d : Diagram) : Value :=
  .ofPairs [
    ("entities", .list (d.entities.map Entity.toValue)),
    ("relationships", .list (d.relationships.map Relationship.toValue)),
    ("form_name", .text d.formName),
    ("show_external_refs", .bool d.showExternal)]

def Node.toValue (n : Node Double) : Value :=
  .ofPairs [
    ("id", .text n.id),
    ("x", .double n.x),
    ("y", .double n.y),
    ("width", .double n.width),
    ("height", .double n.height)]

def Layout.toValue (l : Layout Double) : Value :=
  .ofPairs [
    ("nodes", .list (l.nodes.map Node.toValue)),
    ("edges", .list (l.edges.map Relationship.toValue)),
    ("skipped_edges", .texts l.skipped)]

end Formwork.Diagram
