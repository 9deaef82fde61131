import Formwork.Row.Record
import Formwork.Row.Vocabulary

/-!
Rows. A row describes one field of an application: how it is shown, where it stands and how it is
stored. Texts of a row are kept as the values that the data file gave, so that a row can be written
back without change; everything that has a meaning of its own is read into it.
-/
namespace Formwork

/-- One field of an application. -/
structure Row where
  fieldName : Value := .text ""
  label : Value := .text ""
  control : Control := .textbox
  /-- How the field takes input. -/
  inputMode : InputMode := .optional
  /-- The list of values to choose from. -/
  lookup : Value := .text ""
  /-- The relationship through which the attribute is reached. -/
  relationship : Value := .text ""
  applink : Value := .text ""
  width : String := ""
  /-- Whether the list can be filtered by the field. -/
  filterable : Bool := false
  /-- Whether the list can be sorted by the field. -/
  sortable : Bool := false
  /-- The part of the application. -/
  area : Area := .header
  tabName : Value := .text ""
  subTabName : Value := .text ""
  /-- The column of the header; none when it is not positive. -/
  column : Int := 0
  /-- The place among the rows of the same group, if one is given. -/
  order : Option Int := none
  /-- The binding of the description part. -/
  descDataattribute : Value := .text ""
  descLabel : Value := .text ""
  /-- How the description part takes input. -/
  descInputMode : Value := .text ""
  /-- The event that a button raises. -/
  mxevent : Value := .text ""
  maxType : StorageType := .aln
  length : Int := 100
  /-- The decimal places in storage. -/
  scale : Int := 0
  /-- Whether storage requires a value. -/
  dbRequired : Bool := false
  defaultValue : Value := .text ""
  /-- Whether the attribute has a column in storage. -/
  persistent : Bool := true
  title : Value := .text ""
  /-- The object that owns the attribute, where it is not the primary record. -/
  objectName : Value := .text ""
  deriving Repr, BEq, Inhabited

namespace Row

/-- The attributes of a row by name, in order; an order that is not given has no value. -/
def attributes (r : Row) : List (String × Value) :=
  [("field_name", r.fieldName), ("label", r.label), ("type", .text r.control.word),
    ("input_mode", .text r.inputMode.word), ("lookup", r.lookup),
    ("relationship", r.relationship), ("applink", r.applink), ("width", .text r.width),
    ("filterable", .bool r.filterable), ("sortable", .bool r.sortable),
    ("area", .text r.area.word), ("tab_name", r.tabName), ("sub_tab_name", r.subTabName),
    ("column", .int r.column), ("order", r.order.elim .null .int),
    ("desc_dataattribute", r.descDataattribute), ("desc_label", r.descLabel),
    ("desc_input_mode", r.descInputMode), ("mxevent", r.mxevent),
    ("max_type", .text r.maxType.word), ("length", .int r.length), ("scale", .int r.scale),
    ("db_required", .bool r.dbRequired), ("default_value", r.defaultValue),
    ("persistent", .bool r.persistent), ("title", r.title), ("object_name", r.objectName)]

/-- Only the attributes that have a value. -/
def present (pairs : List (String × Value)) : List (String × Value) :=
  pairs.filter (fun (_, v) => v != .null)

/-- The row as a mapping of the attributes that have a value. -/
def toPairs (r : Row) : List (String × Value) :=
  present r.attributes

/-- Give one attribute the meaning of a value; other names are passed over. -/
def set (r : Row) (name : String) (v : Value) : Except Error Row :=
  match name with
  | "field_name" => .ok { r with fieldName := v.orEmpty }
  | "label" => .ok { r with label := v.orEmpty }
  | "type" => do .ok { r with control := Vocabulary.read .textbox (← v.showable) }
  | "input_mode" => do
    .ok { r with inputMode := Vocabulary.read .optional ((← v.showable).orElse (.text "optional")) }
  | "lookup" => .ok { r with lookup := v.orEmpty }
  | "relationship" => .ok { r with relationship := v.orEmpty }
  | "applink" => .ok { r with applink := v.orEmpty }
  | "width" => do .ok { r with width := (← v.showable).plain }
  | "filterable" => .ok { r with filterable := v.flagOr false }
  | "sortable" => .ok { r with sortable := v.flagOr false }
  | "area" => do .ok { r with area := Vocabulary.read .header (← v.showable) }
  | "tab_name" => .ok { r with tabName := v.orEmpty }
  | "sub_tab_name" => .ok { r with subTabName := v.orEmpty }
  | "column" => do .ok { r with column := ← v.integerOr 0 }
  | "order" =>
    if v == .null || v == .text "" then .ok { r with order := none }
    else do .ok { r with order := some (← v.integerOr 0) }
  | "desc_dataattribute" => .ok { r with descDataattribute := v.orEmpty }
  | "desc_label" => .ok { r with descLabel := v.orEmpty }
  | "desc_input_mode" => .ok { r with descInputMode := v.orEmpty }
  | "mxevent" => .ok { r with mxevent := v.orEmpty }
  | "max_type" => do
    .ok { r with maxType := Vocabulary.read .aln ((← v.showable).orElse (.text "ALN")) }
  | "length" => do .ok { r with length := ← v.integerOr 100 }
  | "scale" => do .ok { r with scale := ← v.integerOr 0 }
  | "db_required" => .ok { r with dbRequired := v.flagOr false }
  | "default_value" => .ok { r with defaultValue := v.orEmpty }
  | "persistent" => .ok { r with persistent := v.flagOr true }
  | "title" => .ok { r with title := v.orEmpty }
  | "object_name" => .ok { r with objectName := v.orEmpty }
  | _ => .ok r

/-- The row of attributes given by name, the last value of each counting. -/
def ofPairs (pairs : List (String × Value)) : Except Error Row :=
  (lastValues pairs).foldlM (fun r (name, v) => r.set name v) {}

/-- The row of a mapping. Every key must be a text, whether it names an attribute or not. -/
def ofEntries (entries : List (Value × Value)) : Except Error Row := do
  ofPairs (← Record.named entries)

/-- The row of a value, which must be a mapping. -/
def ofValue : Value → Except Error Row
  | .map entries => ofEntries entries
  | _ => .error .notRecord

/-- The rows of the items of a value. -/
def ofValues (v : Value) : Except Error (List Row) := do
  (← v.items).mapM ofValue

/-- The row after writing it as a mapping and reading it back: an empty input mode or storage type
becomes the default one. -/
def settle (r : Row) : Row :=
  { r with
    inputMode := if r.inputMode.word == "" then .optional else r.inputMode
    maxType := if r.maxType.word == "" then .aln else r.maxType }

/-- The attributes of a row, some of them replaced by values taken as they are. -/
def revised (r : Row) (changes : List (String × Value)) : Except Error (List (String × Value)) :=
  let attributes := r.attributes
  if changes.any (fun (name, _) => !(attributes.any (fun (known, _) => known == name))) then
    .error (.wrongKind "an unknown attribute")
  else
    .ok (present (attributes.map (fun (name, v) => (name, (lastValue? name changes).getD v))))

end Row

end Formwork
