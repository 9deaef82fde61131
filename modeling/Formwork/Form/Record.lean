import Formwork.Form.Basic
import Formwork.Value

/-!
Forms as data. The records of a form become mappings whose entries stand in a fixed order; the
attributes as they are can be left out.
-/
namespace Formwork.Form

/-- Attributes as a mapping, if they are to be kept. -/
def attributesEntry (keep : Bool) (a : Attributes) : List (String × Value) :=
  if keep then [("attributes", .ofPairs (a.map (fun (k, v) => (k, .text v))))] else []

/-- A truth value that may be unknown. -/
def flagValue (b : Option Bool) : Value :=
  b.elim .null .bool

def Trigger.toValue (t : Trigger) : Value :=
  .ofPairs [("name", .text t.name), ("trigger_type", .text t.type), ("trigger_text", .text t.body)]

def Item.toValue (keep : Bool) (i : Item) : Value :=
  .ofPairs ([
    ("name", .text i.name),
    ("item_type", .text i.type.word),
    ("raw_item_type", .text i.rawType),
    ("prompt", .text i.prompt),
    ("label", .text i.label),
    ("canvas", .text i.canvas),
    ("tab_page", .text i.tabPage),
    ("data_type", .text i.dataType),
    ("maximum_length", .int i.maximumLength),
    ("hint", .text i.hint),
    ("lov_name", .text i.lovName),
    ("required", .bool i.required),
    ("enabled", .bool i.enabled),
    ("visible", .bool i.visible),
    ("query_allowed", .bool i.queryAllowed),
    ("insert_allowed", .bool i.insertAllowed),
    ("update_allowed", .bool i.updateAllowed),
    ("x_position", .int i.x),
    ("y_position", .int i.y),
    ("width", .int i.width),
    ("height", .int i.height)] ++ attributesEntry keep i.attributes)

def Block.toValue (keep : Bool) (b : Block) : Value :=
  .ofPairs ([
    ("name", .text b.name),
    ("query_data_source", .text b.source),
    ("single_record", flagValue b.singleRecord),
    ("records_display_count", .int b.displayCount),
    ("items", .list (b.items.map (Item.toValue keep))),
    ("triggers", .list (b.triggers.map Trigger.toValue))] ++ attributesEntry keep b.attributes)

def TabPage.toValue (keep : Bool) (p : TabPage) : Value :=
  .ofPairs ([
    ("name", .text p.name),
    ("label", .text p.label),
    ("canvas", .text p.canvas)] ++ attributesEntry keep p.attributes)

def Canvas.toValue (keep : Bool) (c : Canvas) : Value :=
  .ofPairs ([
    ("name", .text c.name),
    ("canvas_type", .text c.type),
    ("tab_pages", .list (c.tabPages.map (TabPage.toValue keep)))] ++
    attributesEntry keep c.attributes)

def LovColumn.toValue (c : LovColumn) : Value :=
  .ofPairs [
    ("name", .text c.name),
    ("title", .text c.title),
    ("return_item", .text c.returnItem),
    ("display_width", .int c.displayWidth)]

def Lov.toValue (keep : Bool) (l : Lov) : Value :=
  .ofPairs ([
    ("name", .text l.name),
    ("title", .text l.title),
    ("record_group_name", .text l.recordGroup),
    ("column_mappings", .list (l.columns.map LovColumn.toValue))] ++
    attributesEntry keep l.attributes)

def RecordGroup.toValue (g : RecordGroup) : Value :=
  .ofPairs [("name", .text g.name), ("query_type", .text g.queryType), ("query", .text g.query)]

def Button.toValue (b : Button) : Value :=
  .ofPairs [
    ("name", .text b.name),
    ("label", .text b.label),
    ("block_name", .text b.block),
    ("trigger", .text b.body)]

def Module.toValue (keep : Bool) (m : Module) : Value :=
  .ofPairs ([
    ("name", .text m.name),
    ("title", .text m.title),
    ("blocks", .list (m.blocks.map (Block.toValue keep))),
    ("canvases", .list (m.canvases.map (Canvas.toValue keep))),
    ("tab_pages", .list (m.tabPages.map (TabPage.toValue keep))),
    ("lovs", .list (m.lovs.map (Lov.toValue keep))),
    ("record_groups", .list (m.recordGroups.map RecordGroup.toValue)),
    ("buttons", .list (m.buttons.map Button.toValue)),
    ("triggers", .list (m.triggers.map Trigger.toValue))] ++ attributesEntry keep m.attributes)

end Formwork.Form
