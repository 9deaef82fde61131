import Formwork.Artifact

/-!
Artifacts as data. The mappings keep the order of tabs, tables and fields.
-/
namespace Formwork

def Field.sequence (fields : List Field) : Value :=
  .list (fields.map (fun f => .ofPairs f.toPairs))

def Panel.toPairs (p : Panel) : List (String × Value) :=
  [("header_fields", Field.sequence p.header),
    ("detail_tables", .ofPairs (p.tables.map (fun (relationship, fields) =>
      (relationship, Field.sequence fields))))]

def SubTab.toValue (t : SubTab) : Value :=
  .ofPairs ([("id", .text t.id), ("label", .text t.label)] ++ t.panel.toPairs)

def Tab.toValue (t : Tab) : Value :=
  .ofPairs ([
    ("id", .text t.id),
    ("label", .text t.label),
    ("main_detail_label", .text t.mainDetailLabel)] ++ t.panel.toPairs ++
    [("sub_tabs", .list (t.subTabs.map SubTab.toValue))])

def Application.toValue (a : Application) : Value :=
  .ofPairs [
    ("list_fields", Field.sequence a.list),
    ("tabs", .list (a.tabs.map Tab.toValue))]

def Coverage.Report.toValue (r : Coverage.Report) : Value :=
  .ofPairs [
    ("missing_fields", .texts r.missing),
    ("schema_fields", .texts r.staged),
    ("expected_fields", .texts r.expected),
    ("is_valid", .bool r.isValid)]

/-- All artifacts as a mapping. -/
def Bundle.toValue (b : Bundle) : Value :=
  .ofPairs [
    ("presentation", .text b.page),
    ("schema_script", .text b.schema.content),
    ("resource_script", .text b.resource.content),
    ("resource_filename", .text b.resource.filename),
    ("coverage", b.coverage.toValue),
    ("application", b.application.toValue)]

end Formwork
