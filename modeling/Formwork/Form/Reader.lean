import Formwork.Form.Basic
import Formwork.Form.Membership
import Formwork.Form.Tag
import Formwork.Settings

/-!
Reading forms. Every part of a form is found by scanning the document for its tags; missing
attributes have defaults and no text is refused, unless it has an integer of more digits than are
read; else only settings can be at fault. Triggers belong to the block around them, or to the form
when neither a block nor an item is around them.
-/
namespace Formwork.Form

def Trigger.ofAttributes (a : Attributes) : Trigger :=
  { name := a.text "Name"
    type := a.anyOf ["TriggerType", "TriggerStyle"]
    body := a.text "TriggerText" }

/-- The triggers of a document with the offsets of their tags. -/
def triggersOf (document : List Char) : Except Error (List (Nat × Trigger)) := do
  let tags ← scanTags "Trigger" document
  .ok (tags.map (fun t => (t.start, .ofAttributes t.attributes)))

/-- The first of two texts that is not empty. -/
def orText (a b : String) : String :=
  if a == "" then b else a

def Item.ofAttributes (a : Attributes) : Except Error Item := do
  let rawType := a.text "ItemType"
  let maximumLength ← a.integer "MaximumLength" 0
  let x ← a.integer "XPosition" 0
  let y ← a.integer "YPosition" 0
  let width ← a.integer "Width" 0
  let height ← a.integer "Height" 0
  .ok {
    name := a.text "Name"
    type := .ofText rawType
    rawType
    prompt := a.text "Prompt"
    label := a.text "Label"
    canvas := a.anyOf ["CanvasName", "Canvas"]
    tabPage := a.anyOf ["TabPageName", "TabPage"]
    dataType := orText (a.text "DataType") "Char"
    maximumLength
    hint := a.text "Hint"
    lovName := a.text "LOVName"
    required := a.flag "Required" false
    enabled := a.flag "Enabled" true
    visible := a.flag "Visible" true
    queryAllowed := a.flag "QueryAllowed" true
    insertAllowed := a.flag "InsertAllowed" true
    updateAllowed := a.flag "UpdateAllowed" true
    x
    y
    width
    height
    attributes := a }

/-- Something found in a document, with the offsets at which its element starts and stops. -/
structure Placed (α : Type) where
  /-- What was found. -/
  value : α
  start : Nat
  stop : Nat
  deriving Repr

/-- Whether an offset lies strictly inside an element. -/
def Placed.surrounds {α : Type} (p : Placed α) (offset : Nat) : Bool :=
  p.start < offset && offset < p.stop

/-- The elements of a kind with their attributes. -/
def elementsOf (tag : String) (document : List Char) : Except Error (List (Placed Attributes)) := do
  let closes := scanCloses tag document
  let tags ← scanTags tag document
  .ok (tags.map (fun t => ⟨t.attributes, t.start, t.elementStop closes⟩))

/-- Read the item of an element. -/
def Placed.item (p : Placed Attributes) : Except Error (Placed Item) := do
  let value ← Item.ofAttributes p.value
  .ok { p with value }

def itemsOf (document : List Char) : Except Error (List (Placed Item)) := do
  let elements ← elementsOf "Item" document
  elements.mapM Placed.item

/-- The start of the names of items that only mark groups. -/
def groupMark : String := "GRP_"

/-- Whether an item can become a field: it has a name and a type, and is neither a picture nor the
mark of a group. -/
def Item.isField (i : Item) : Bool :=
  i.name != "" && i.rawType != "" && Text.lower (Text.trim i.rawType) != "image" &&
    !Text.beginsWith i.name groupMark

/-- The items that belong to a block, from top to bottom and from left to right. -/
def membersOf (tokens : List String) (block : String) (items : List (Placed Item)) : List Item :=
  let members := (items.map (·.value)).filter (fun i =>
    i.isField && i.type != .pushButton && belongs tokens block i.name)
  members.mergeSort (fun a b => a.y < b.y || (a.y == b.y && decide (a.x ≤ b.x)))

def Block.ofElement (tokens : List String) (items : List (Placed Item))
    (triggers : List (Nat × Trigger)) (p : Placed Attributes) : Except Error Block := do
  let a := p.value
  let name := a.text "Name"
  let displayCount ← a.integer "RecordsDisplayCount" 0
  .ok {
    name
    source := a.text "QueryDataSourceName"
    singleRecord := a.flag? "SingleRecord"
    displayCount
    items := membersOf tokens name items
    triggers := (triggers.filter (fun (offset, _) => p.surrounds offset)).map (·.2)
    attributes := a }

/-- The named blocks of a document that are not skipped. -/
def blocksOf (tokens : List String) (skipped : String → Bool) (items : List (Placed Item))
    (document : List Char) : Except Error (List Block) := do
  let triggers ← triggersOf document
  let elements ← elementsOf "Block" document
  let kept := elements.filter (fun p =>
    let name := p.value.text "Name"
    name != "" && !skipped name)
  kept.mapM (Block.ofElement tokens items triggers)

/-- The canvases of tags without their tab pages, with the offsets of the tags. -/
def canvasesOf (tags : List Tag) : List (Nat × Canvas) :=
  tags.map (fun t =>
    (t.start,
      { name := t.attributes.text "Name"
        type := orText (t.attributes.text "CanvasType") "CONTENT"
        attributes := t.attributes }))

/-- The position of the last canvas that is opened before an offset. -/
def ownerOf (canvases : List (Nat × Canvas)) (offset : Nat) : Option Nat :=
  ((canvases.zipIdx.filter (fun ((start, _), _) => start < offset)).getLast?).map (·.2)

/-- The tab pages of tags, each with the position of its canvas. -/
def tabPagesOf (canvases : List (Nat × Canvas)) (tags : List Tag) : List (Option Nat × TabPage) :=
  tags.map (fun t =>
    let owner := ownerOf canvases t.start
    (owner,
      { name := t.attributes.text "Name"
        label := t.attributes.text "Label"
        canvas := ((owner.bind (canvases[·]?)).map (·.2.name)).getD ""
        attributes := t.attributes }))

/-- The canvases with their tab pages, and all tab pages, from the tags of both. -/
def sharePages (opened tags : List Tag) : List Canvas × List TabPage :=
  let canvases := canvasesOf opened
  let pages := tabPagesOf canvases tags
  (canvases.zipIdx.map (fun ((_, c), i) =>
      { c with tabPages := (pages.filter (fun (owner, _) => owner == some i)).map (·.2) }),
    pages.map (·.2))

/-- The canvases of a document with their tab pages, and all tab pages. -/
def surfacesOf (document : List Char) : Except Error (List Canvas × List TabPage) := do
  let opened ← scanTags "Canvas" document
  let tags ← scanTags "TabPage" document
  .ok (sharePages opened tags)

def LovColumn.ofAttributes (a : Attributes) : Except Error LovColumn := do
  let displayWidth ← a.integer "DisplayWidth" 0
  .ok {
    name := a.text "Name"
    title := a.text "Title"
    returnItem := a.text "ReturnItem"
    displayWidth }

/-- The named columns of a list of values. -/
def lovColumnsOf (content : List Char) : Except Error (List LovColumn) := do
  let tags ← scanTags "LOVColumnMapping" content
  let named := (tags.map (·.attributes)).filter (fun a => a.text "Name" != "")
  named.mapM LovColumn.ofAttributes

/-- The text before the first closing tag of a list of values, and the rest after that tag. -/
def untilLovClose? : List Char → Option (List Char × List Char)
  | [] => none
  | c :: cs =>
    match closeTag? "LOV".toList tagEnd? (c :: cs) with
    | some (_, rest) => some ([], rest)
    | none => (untilLovClose? cs).map (fun (content, rest) => (c :: content, rest))

/-- A list of values with content at the start of a text: the body of its tag, its content, and the
rest. -/
def filledLov? (cs : List Char) : Option ((List Char × List Char) × List Char) :=
  match cs with
  | '<' :: rest =>
    afterTagName? "LOV".toList rest (fun after =>
      match tagBody? after with
      | some (body, more) =>
        if closesItself body then none
        else (untilLovClose? more).map (fun (content, rest) => ((body, content), rest))
      | none => none)
  | _ => none

/-- The list of values of a tag. -/
def Lov.ofAttributes (a : Attributes) (columns : List LovColumn) : Lov :=
  { name := a.text "Name"
    title := a.text "Title"
    recordGroup := a.text "RecordGroupName"
    columns
    attributes := a }

/-- Read a list of values with content from the body of its tag and its content. The columns of one
without a name are not read. -/
def Lov.ofFilled? (body content : List Char) : Except Error (Option Lov) := do
  let a ← readAttributes body
  if a.text "Name" == "" then .ok none
  else
    let columns ← lovColumnsOf content
    .ok (some (Lov.ofAttributes a columns))

/-- The named lists of values with content. -/
def filledLovsOf (document : List Char) : Except Error (List Lov) := do
  let lovs ← (Text.Match.findAll (fun _ => filledLov?) document).mapM (fun found =>
    Lov.ofFilled? found.value.1 found.value.2)
  .ok (lovs.filterMap id)

/-- The lists of values of a document: first those with content, then those without whose names have
not been seen. -/
def lovsOf (document : List Char) : Except Error (List Lov) := do
  let filled ← filledLovsOf document
  let tags ← scanTags "LOV" document
  let bare := ((tags.filter (·.selfClosing)).map (fun t => Lov.ofAttributes t.attributes [])).filter
    (fun l => l.name != "" && !filled.any (·.name == l.name))
  .ok (filled ++ firsts (·.name) bare)

/-- The record groups of a document that have a name and a query. -/
def recordGroupsOf (document : List Char) : Except Error (List RecordGroup) := do
  let tags ← scanTags "RecordGroup" document
  let groups : List RecordGroup := tags.map (fun t => {
    name := t.attributes.text "Name"
    queryType := t.attributes.text "QueryDataSourceType"
    query := t.attributes.anyOf ["RecordGroupQuery", "QueryDataSourceName"] })
  .ok (groups.filter (fun g => g.name != "" && g.query != ""))

/-- Whether a label is that of a button of the system. -/
def isSystemLabel (systemLabels : List String) (label : String) : Bool :=
  systemLabels.any (Text.hasPart label)

def pressEvent : String := "WHEN-BUTTON-PRESSED"

/-- The buttons of the application: those with a name and a label that is none of the system. -/
def buttonsOf (systemLabels : List String) (blocks : List Block) (items : List (Placed Item))
    (document : List Char) : Except Error (List Button) := do
  let triggers ← triggersOf document
  let kept := items.filter (fun p =>
    p.value.type == .pushButton && p.value.name != "" && p.value.label != "" &&
      !isSystemLabel systemLabels p.value.label)
  .ok (kept.map (fun p =>
    let pressed := triggers.find? (fun (offset, t) =>
      p.surrounds offset && Text.upper t.name == pressEvent)
    let owner := blocks.find? (fun b => belongs indexTokens b.name p.value.name)
    { name := p.value.name
      label := p.value.label
      block := (owner.map (·.name)).getD ""
      body := (pressed.map (·.2.body)).getD "" }))

/-- The attributes of the first tag that has a name; the tags behind it are not read. -/
def firstNamed : List (Text.Match.Found (List Char)) → Except Error Attributes
  | [] => .ok []
  | found :: rest => do
    let t ← Tag.ofFound found
    if t.attributes.text "Name" == "" then firstNamed rest else .ok t.attributes

/-- The attributes of the form itself: those of the first form element, or of the first module
element that has a name. -/
def headerOf (document : List Char) : Except Error Attributes :=
  match writtenTags "FormModule" document with
  | found :: _ => (Tag.ofFound found).map (·.attributes)
  | [] => firstNamed (writtenTags "Module" document)

/-- The triggers that neither a block nor an item surrounds. -/
def formTriggersOf (items : List (Placed Item)) (document : List Char) :
    Except Error (List Trigger) := do
  let blocks ← elementsOf "Block" document
  let triggers ← triggersOf document
  .ok ((triggers.filter (fun (offset, _) =>
    !(blocks.any (·.surrounds offset) || items.any (·.surrounds offset)))).map (·.2))

def Module.read (s : Settings) (text : String) : Except Error Module := do
  let document := text.toList
  let header ← headerOf document
  let items ← itemsOf document
  let blocks ← blocksOf indexTokens (← s.skippedBlocks) items document
  let (canvases, tabPages) ← surfacesOf document
  let lovs ← lovsOf document
  let recordGroups ← recordGroupsOf document
  let buttons ← buttonsOf (← s.systemLabels) blocks items document
  let triggers ← formTriggersOf items document
  .ok {
    name := header.text "Name"
    title := header.text "Title"
    blocks
    canvases
    tabPages
    lovs
    recordGroups
    buttons
    triggers
    attributes := header }

/-- The first list of values with a name. -/
def Module.findLov (m : Module) (name : String) : Option Lov :=
  m.lovs.find? (·.name == name)

def Module.findRecordGroup (m : Module) (name : String) : Option RecordGroup :=
  m.recordGroups.find? (·.name == name)

end Formwork.Form
