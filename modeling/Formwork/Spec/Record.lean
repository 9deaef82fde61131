import Formwork.Form.Record
import Formwork.Json.Printer
import Formwork.Spec.Basic

/-!
The specification as data, and as a JSON document.
-/
namespace Formwork.Spec

def statementValue (s : Trigger.Statement) : Value :=
  .ofPairs [
    ("type", .text s.kind.word),
    ("statement", .text s.text),
    ("tables", .texts s.tables),
    ("fields", .texts s.fields)]

def ruleValue (r : Trigger.Rule) : Value :=
  .ofPairs [
    ("type", .text r.kind.word),
    ("description", .text r.description),
    ("affected_fields", .texts r.affected)]

def analysisValue (t : Trigger.Analysis) : Value :=
  .ofPairs [
    ("no", .int t.number),
    ("name", .text t.name),
    ("event_description", .text t.event.description),
    ("java_use", .text t.event.purpose),
    ("maximo_location", .text t.event.location),
    ("level", .text t.level.word),
    ("block_name", .text t.block),
    ("trigger_text", .text t.body),
    ("sql_statements", .list (t.statements.map statementValue)),
    ("business_rules", .list (t.rules.map ruleValue)),
    ("summary", .text t.summary)]

/-- Numbers of triggers as a mapping. -/
def statisticsValue (s : Trigger.Section) : Value :=
  .ofPairs [
    ("total_count", .int s.count),
    ("form_level_count", .int s.form.length),
    ("block_level_count", .int s.blockCount),
    ("by_event_type", .ofPairs (s.countByEvent.map (fun (name, n) => (name, .int n))))]

/-- The triggers of a form as a mapping. -/
def sectionValue (s : Trigger.Section) : Value :=
  .ofPairs [
    ("form_triggers", .list (s.form.map analysisValue)),
    ("block_triggers", .list (s.blocks.map (fun (name, triggers) => .ofPairs [
      ("block_name", .text name),
      ("triggers", .list (triggers.map analysisValue))]))),
    ("statistics", statisticsValue s)]

def Field.toValue (f : Field) : Value :=
  .ofPairs [
    ("no", .int f.number),
    ("prompt", .text f.prompt),
    ("db_column", .text f.column),
    ("item_type", .text f.type.word),
    ("displayed", .bool f.displayed),
    ("data_type", .text f.dataType),
    ("max_length", .int f.maxLength),
    ("hint", .text f.hint),
    ("required", .bool f.required),
    ("case_restriction", .text f.caseRestriction),
    ("lov_name", .text f.lovName),
    ("format_mask", .text f.formatMask),
    ("update_allowed", .bool f.updateAllowed),
    ("initial_value", .text f.initialValue),
    ("remark", .text f.remark),
    ("canvas", .text f.canvas),
    ("tab_page", .text f.tabPage),
    ("x_position", .int f.x),
    ("y_position", .int f.y)]

def Block.toValue (b : Block) : Value :=
  .ofPairs [
    ("name", .text b.name),
    ("base_table", .text b.baseTable),
    ("where_condition", .text b.condition),
    ("order_by_clause", .text b.orderBy),
    ("insert_allowed", .bool b.insertAllowed),
    ("update_allowed", .bool b.updateAllowed),
    ("delete_allowed", .bool b.deleteAllowed),
    ("single_record", Form.flagValue b.singleRecord),
    ("records_display_count", .int b.displayCount),
    ("fields", .list (b.fields.map Field.toValue))]

def Button.toValue (b : Button) : Value :=
  .ofPairs [
    ("name", .text b.name),
    ("label", .text b.label),
    ("description", .text b.description),
    ("block_name", .text b.block)]

def Lov.toValue (l : Lov) : Value :=
  .ofPairs [
    ("no", .int l.number),
    ("name", .text l.name),
    ("title", .text l.title),
    ("record_group_name", .text l.recordGroup),
    ("record_group_query", .text l.query),
    ("columns", .list (l.columns.map (fun c => .ofPairs [
      ("column_name", .text c.name),
      ("title", .text c.title),
      ("return_item", .text c.returnItem)])))]

def FormSpec.toValue (s : FormSpec) : Value :=
  .ofPairs [
    ("form_name", .text s.name),
    ("form_title", .text s.title),
    ("function_description", .text s.purpose),
    ("blocks", .list (s.blocks.map Block.toValue)),
    ("buttons", .list (s.buttons.map Button.toValue)),
    ("lovs", .list (s.lovs.map Lov.toValue)),
    ("record_groups", .list (s.recordGroups.map Form.RecordGroup.toValue)),
    ("tab_pages", .list (s.tabPages.map (Form.TabPage.toValue false))),
    ("triggers", sectionValue s.triggers)]

def FormSpec.json (s : FormSpec) : String :=
  Json.writeIndented s.toValue

end Formwork.Spec
