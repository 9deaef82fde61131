import Formwork.Form.Attribute
import Formwork.Row.Vocabulary

/-!
Forms. A form is a module of blocks, canvases, lists of values, record groups, buttons and triggers.
The fields of a block are items; which items belong to a block follows from their names.
-/
namespace Formwork

inductive ItemType where
  | textItem
  | checkBox
  | listItem
  | pushButton
  /-- A text that is only shown. -/
  | displayItem
  /-- A choice between alternatives. -/
  | radioGroup
  | image
  | beanArea
  | chartItem
  | userArea
  | other (word : String)
  deriving Repr, DecidableEq, Inhabited

def ItemType.word : ItemType → String
  | .textItem => "TEXT_ITEM"
  | .checkBox => "CHECK_BOX"
  | .listItem => "LIST_ITEM"
  | .pushButton => "PUSH_BUTTON"
  | .displayItem => "DISPLAY_ITEM"
  | .radioGroup => "RADIO_GROUP"
  | .image => "IMAGE"
  | .beanArea => "BEAN_AREA"
  | .chartItem => "CHART_ITEM"
  | .userArea => "USER_AREA"
  | .other word => word

instance : Vocabulary ItemType where
  members := [.textItem, .checkBox, .listItem, .pushButton, .displayItem, .radioGroup, .image,
    .beanArea, .chartItem, .userArea]
  word := ItemType.word
  other := .other

/-- The type that a form names: the words of a known type, however they are capitalised and whether
underscores or spaces stand between them; any other text names a text item. -/
def ItemType.ofText (raw : String) : ItemType :=
  let wanted := Text.lower (Text.trim raw)
  let spaced (s : String) : String := s.map (fun c => if c == '_' then ' ' else c)
  ((Vocabulary.members (α := ItemType)).find? (fun t =>
    Text.lower (spaced t.word) == spaced wanted)).getD .textItem

namespace Form

/-- A trigger: what the form does at an event. -/
structure Trigger where
  name : String
  type : String := ""
  body : String := ""
  deriving Repr, BEq, Inhabited

/-- An item: one field of the form. -/
structure Item where
  name : String := ""
  type : ItemType := .textItem
  /-- The type as the document gives it. -/
  rawType : String := ""
  /-- The text before the item. -/
  prompt : String := ""
  label : String := ""
  canvas : String := ""
  tabPage : String := ""
  dataType : String := "Char"
  maximumLength : Int := 0
  hint : String := ""
  /-- The list of values to choose from. -/
  lovName : String := ""
  required : Bool := false
  enabled : Bool := true
  visible : Bool := true
  /-- Whether it can be searched by. -/
  queryAllowed : Bool := true
  /-- Whether it takes input in a new record. -/
  insertAllowed : Bool := true
  /-- Whether it takes input in an old record. -/
  updateAllowed : Bool := true
  x : Int := 0
  y : Int := 0
  width : Int := 0
  height : Int := 0
  attributes : Attributes := []
  deriving Repr, BEq, Inhabited

/-- A block: the records of one source, with the items that show them. -/
structure Block where
  name : String := ""
  /-- The table or view that the records come from. -/
  source : String := ""
  /-- Whether one record is shown at a time, if the document tells. -/
  singleRecord : Option Bool := none
  /-- How many records are shown. -/
  displayCount : Int := 0
  items : List Item := []
  triggers : List Trigger := []
  attributes : Attributes := []
  deriving Repr, BEq, Inhabited

structure TabPage where
  name : String := ""
  label : String := ""
  canvas : String := ""
  attributes : Attributes := []
  deriving Repr, BEq, Inhabited

/-- A canvas: a surface on which items stand. -/
structure Canvas where
  name : String := ""
  type : String := "CONTENT"
  tabPages : List TabPage := []
  attributes : Attributes := []
  deriving Repr, BEq, Inhabited

structure LovColumn where
  name : String
  title : String := ""
  /-- The item that takes the value. -/
  returnItem : String := ""
  displayWidth : Int := 0
  deriving Repr, BEq, Inhabited

/-- A list of values to choose from. -/
structure Lov where
  name : String := ""
  title : String := ""
  recordGroup : String := ""
  columns : List LovColumn := []
  attributes : Attributes := []
  deriving Repr, BEq, Inhabited

structure RecordGroup where
  name : String := ""
  queryType : String := ""
  query : String := ""
  deriving Repr, BEq, Inhabited

structure Button where
  name : String := ""
  label : String := ""
  block : String := ""
  /-- What it does when it is pressed. -/
  body : String := ""
  deriving Repr, BEq, Inhabited

structure Module where
  name : String := ""
  title : String := ""
  blocks : List Block := []
  canvases : List Canvas := []
  /-- The tab pages of all canvases. -/
  tabPages : List TabPage := []
  lovs : List Lov := []
  recordGroups : List RecordGroup := []
  buttons : List Button := []
  triggers : List Trigger := []
  attributes : Attributes := []
  deriving Repr, BEq, Inhabited

end Form

end Formwork
