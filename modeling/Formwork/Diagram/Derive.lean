import Formwork.Diagram.Basic
import Formwork.Spec.Basic
import Formwork.Text.Match

/-!
Diagrams of forms. Every block is an entity. The first header owns every detail block. A record
group that a field of a block looks values up in is an external entity, and there is one
relationship between a block and each record group that it uses.
-/
namespace Formwork.Diagram

open Text.Match

/-- Whether a name is that of a key: it ends in `_ID`, `_NO` or `_CODE`, a line end after it not
counting. -/
def isKeyName (name : String) : Bool :=
  let upper := (Text.upper name).toList
  let ends (cs : List Char) : Bool :=
    ["_ID", "_NO", "_CODE"].any (fun key => key.toList.isSuffixOf cs)
  ends upper || (upper.getLast? == some '\n' && ends upper.dropLast)

def startsTableName (c : Char) : Bool :=
  c.isAlpha || c == '_' || c.toNat == 0x17f || c.toNat == 0x130 || c.toNat == 0x131 ||
    c.toNat == 0x212a

def isTableNameChar (c : Char) : Bool :=
  startsTableName c || c.isDigit || c == '.'

/-- The first table after the word `from` in a query, in upper case. -/
def tableOfQuery (query : String) : String :=
  let table (before : Option Char) : Rest (List Char × List Char) :=
    wordEdge before <| word "FROM" <| blanks1 <| initial fun first =>
      many isTableNameChar fun rest => fun after => some (first :: rest, after)
  ((Text.Match.find? table query.toList).map (fun m => Text.upper (String.ofList m.value))).getD ""
where
  /-- The first character of a name. -/
  initial {α : Type} (k : Char → Rest α) : Rest α
    | c :: cs => if startsTableName c then k c cs else none
    | [] => none

/-- The role of a field; the first field of a block identifies its records. -/
def roleOf (isFirst : Bool) (f : Spec.Field) : Role :=
  if isFirst || isKeyName f.column then .primaryKey
  else if f.lovName != "" then .foreignKey
  else if f.required then .required
  else .plain

/-- The kind of a block. A form that does not say how many records it shows has its details on tab
pages. -/
def kindOf (b : Spec.Block) : EntityKind :=
  match b.singleRecord with
  | some true => .header
  | some false => .detail
  | none => if b.fields.any (·.tabPage != "") then .detail else .header

def Entity.ofBlock (b : Spec.Block) : Entity :=
  { id := b.name
    block := b.name
    table := b.baseTable
    kind := kindOf b
    fields := (b.fields.filter (·.displayed)).zipIdx.map (fun (f, i) =>
      { name := f.column, dataType := f.dataType, role := roleOf (i == 0) f
        lovName := f.lovName }) }

/-- A look-up: a block and the list of values that one of its fields uses. -/
structure LookUp where
  block : String
  /-- The list of values. -/
  lov : Spec.Lov
  deriving Repr, BEq, Inhabited

/-- The last list of values with a name. -/
def lovNamed (s : Spec.FormSpec) (name : String) : Option Spec.Lov :=
  s.lovs.reverse.find? (·.name == name)

/-- The look-ups of a form whose lists of values have a record group, in the order of the fields. -/
def lookUps (s : Spec.FormSpec) : List LookUp :=
  s.blocks.flatMap (fun b => b.fields.filterMap (fun f =>
    if f.lovName == "" then none
    else
      match lovNamed s f.lovName with
      | some lov => if lov.recordGroup == "" then none else some ⟨b.name, lov⟩
      | none => none))

/-- The id of the external entity of a record group. -/
def externalId (group : String) : String :=
  "ext-" ++ group

def Entity.ofLookUp (l : LookUp) : Entity :=
  { id := externalId l.lov.recordGroup
    table := Form.orText (tableOfQuery l.lov.query) l.lov.recordGroup
    kind := .external }

/-- The relationship between a header and a detail. -/
def ownership (header detail : Entity) : Relationship :=
  { id := "rel-" ++ header.id ++ "-" ++ detail.id
    source := header.id
    target := detail.id }

/-- The relationship between a block and a record group. -/
def Relationship.ofLookUp (l : LookUp) : Relationship :=
  { id := "lov-" ++ l.block ++ "-" ++ l.lov.recordGroup
    source := l.block
    target := externalId l.lov.recordGroup
    line := .dashed
    label := l.lov.name }

/-- The relationships from the first header to the details. -/
def ownerships (blocks : List Entity) : List Relationship :=
  match blocks.find? (·.kind == .header) with
  | some header => (blocks.filter (·.kind == .detail)).map (ownership header)
  | none => []

def ofSpec (s : Spec.FormSpec) (showExternal : Bool) : Diagram :=
  let blocks := s.blocks.map Entity.ofBlock
  let used := lookUps s
  { entities := blocks ++ (firsts (·.lov.recordGroup) used).map Entity.ofLookUp
    relationships := ownerships blocks ++
      (firsts (fun l => (l.block, l.lov.recordGroup)) used).map Relationship.ofLookUp
    formName := s.name
    showExternal }

end Formwork.Diagram
