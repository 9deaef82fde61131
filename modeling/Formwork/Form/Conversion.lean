import Formwork.Form.Basic
import Formwork.Row.Basic
import Formwork.Settings

/-!
Rows from forms. Every visible item on a visible canvas becomes a row. Items on the header canvas,
and items on the tab pages of other canvases, go to headers; the rest become details under the
source of their block. A text item followed by an item without a prompt on the same canvas takes it
as its description. The first fields that are neither buttons nor plain texts are repeated in the
list.
-/
namespace Formwork

def ItemType.control : ItemType → Control
  | .checkBox => .checkbox
  | .pushButton => .pushButton
  | .displayItem => .staticText
  | .listItem => .combobox
  | _ => .textbox

namespace Form

def inputModeFor (required enabled : Bool) : InputMode :=
  if required then .required else if enabled then .optional else .readonly

/-- Set the value of a key: its place is kept where it is known, else it comes last. -/
def setPair (key value : String) : List (String × String) → List (String × String)
  | [] => [(key, value)]
  | (k, v) :: rest => if k == key then (k, value) :: rest else (k, v) :: setPair key value rest

/-- Whether an item describes the one before it. -/
def describes (current following : Item) : Bool :=
  (following.type == .displayItem || following.type == .textItem) && following.prompt == "" &&
    current.canvas == following.canvas

/-- The pairs of names found so far, after looking at two neighbours: an item that is itself a
description takes none. -/
def addPair (pairs : List (String × String)) (current following : Item) : List (String × String) :=
  if current.type == .textItem && describes current following &&
      !pairs.any (fun (_, description) => description == current.name) then
    setPair current.name following.name pairs
  else pairs

/-- The text items that take a description, with the names of their descriptions. -/
def descriptionPairs (items : List Item) : List (String × String) :=
  (items.zip items.tail).foldl
    (fun pairs (current, following) => addPair pairs current following) []

/-- What the rows of a form depend on besides its blocks. -/
structure Surface where
  /-- The canvases that are visible without tab pages. -/
  configured : List String
  /-- The canvases with tab pages. -/
  tabbed : List String
  header : Value
  /-- The labels of tab pages by name. -/
  labels : List (String × String)
  deriving Repr

def Surface.of (configured : List String) (header : Value) (m : Module) : Surface :=
  { configured
    tabbed := (m.canvases.filter (fun c => !c.tabPages.isEmpty)).map (·.name)
    header
    labels := m.canvases.flatMap (fun c =>
      (c.tabPages.filter (fun p => p.label != "")).map (fun p => (p.name, p.label))) }

/-- Whether an item can be seen. -/
def Surface.shows (u : Surface) (i : Item) : Bool :=
  i.canvas != "" && (u.configured.contains i.canvas || u.tabbed.contains i.canvas) && i.visible

/-- Whether an item belongs to a header. -/
def Surface.inHeader (u : Surface) (i : Item) : Bool :=
  Value.text i.canvas == u.header ||
    (u.tabbed.contains i.canvas && !u.configured.contains i.canvas && i.tabPage != "")

/-- The label of the tab page of an item. -/
def Surface.pageLabel (u : Surface) (i : Item) : String :=
  if i.tabPage == "" then "" else (lastValue? i.tabPage u.labels).getD i.tabPage

/-- The first of several texts that is not empty. -/
def firstText (texts : List String) : String :=
  (texts.find? (· != "")).getD ""

def rowOf (u : Surface) (source : String) (pairs : List (String × String)) (i : Item) : Row :=
  let header := u.inHeader i
  let page := u.pageLabel i
  let description := (pairs.lookup i.name).getD ""
  { fieldName := .text i.name
    label := .text (if i.type == .pushButton then firstText [i.label, i.prompt, i.name]
      else firstText [i.prompt, i.name])
    control := if description == "" then i.type.control else .multipartTextbox
    inputMode := inputModeFor i.required i.enabled
    lookup := .text i.lovName
    relationship := .text (if header then "" else source)
    area := if header then .header else .detail
    tabName := .text (if header then page else "")
    subTabName := .text (if header then "" else page)
    length := if i.maximumLength == 0 then 100 else i.maximumLength
    descDataattribute := .text description }

/-- The rows of a block; details of a source in `skipped` have none. -/
def rowsOfBlock (skipped : List String) (u : Surface) (b : Block) : List Row :=
  let pairs := descriptionPairs b.items
  let kept := b.items.filter (fun i =>
    u.shows i && !pairs.any (fun (_, description) => description == i.name) &&
      (u.inHeader i || !skipped.contains b.source))
  kept.map (rowOf u b.source pairs)

def listRow (r : Row) : Row :=
  { r with area := .list, control := .textbox, inputMode := .readonly }

/-- The first items of a list, or, for a negative count, all but the last ones. -/
def takeCount {α : Type} (count : Int) (items : List α) : List α :=
  if count < 0 then items.take (items.length - count.natAbs) else items.take count.toNat

/-- A form as rows. -/
structure Conversion where
  rows : List Row
  name : String
  title : String
  deriving Repr, BEq, Inhabited

def Module.convert (s : Settings) (m : Module) : Except Error Conversion := do
  let skippedBlocks ← s.names "legacy" "convert_skip_blocks"
  let skippedSources ← s.names "legacy" "skip_relationships"
  let configured ← s.names "legacy" "visible_canvases"
  let u := Surface.of configured (s.setting "legacy" "header_canvas") m
  let blocks := m.blocks.filter (fun b => !skippedBlocks.contains b.name)
  let rows := blocks.flatMap (rowsOfBlock skippedSources u)
  let count ← (s.setting "legacy" "max_list_fields").integer
  let candidates := rows.filter (fun r => r.control != .pushButton && r.control != .staticText)
  .ok {
    rows := rows ++ (takeCount count candidates).map listRow
    name := m.name
    title := if m.title == "" then m.name else m.title }

end Form

end Formwork
