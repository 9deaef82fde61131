import Formwork.Page.Control

/-!
Header sections. The fields of a header stand in columns. Where a field names a column, all fields
follow the columns they name, those that name none joining the first; otherwise columns are filled
one after the other to an equal height.
-/
namespace Formwork.Page

/-- Pieces of the given length, the last one possibly shorter. -/
def pieces {α : Type} (height : Nat) (items : List α) : List (List α) :=
  match height, items with
  | 0, _ => []
  | _, [] => []
  | n + 1, a :: rest => (a :: rest.take n) :: pieces (n + 1) (rest.drop n)
termination_by items.length
decreasing_by simp only [List.length_drop, List.length_cons]; omega

/-- Whether some field names a column. -/
def namesColumn (fields : List Field) : Bool :=
  fields.any (fun f => decide (0 < f.column))

/-- The fields by the columns that they name. -/
def namedColumns (fields : List Field) : List (List Field) :=
  let column (f : Field) : Int := if 0 < f.column then f.column else 1
  ((classes column fields).mergeSort (fun a b => decide (a.1 ≤ b.1))).map (·.2)

/-- The columns of a header whose columns have the given height. Fields that fit into one column
make up one, and there are none of a height below zero. -/
def columns (height : Int) (fields : List Field) : List (List Field) :=
  if namesColumn fields then namedColumns fields
  else if (fields.length : Int) ≤ height then [fields]
  else pieces height.toNat fields

/-- Whether fields cannot be divided into columns, because their height is zero. -/
def lacksHeight (height : Int) (fields : List Field) : Bool :=
  height == 0 && !fields.isEmpty && !namesColumn fields

/-- The columns of a header, refused where a height of zero leaves none. -/
def columns? (height : Int) (fields : List Field) : Except Error (List (List Field)) :=
  if lacksHeight height fields then .error .noColumnHeight else .ok (columns height fields)

def sectionColumn (fields : List Field) : Numbered Element := do
  let columnId ← freshId
  let innerId ← freshId
  let controls ← fields.mapM control
  pure (.node "sectioncol" [("id", columnId)] [.node "section" [("id", innerId)] controls])

def headerSection (id relationship : String) (height : Int) (fields : List Field) :
    Numbered Element := do
  let rowId ← freshId
  let columns ← (columns height fields).mapM sectionColumn
  pure (.node "section" (givenAttributes [("id", id), ("relationship", relationship)])
    [.node "sectionrow" [("id", rowId)] columns])

/-- The event of the button that closes a dialog with success. -/
def confirmEvent : String := "dialogok"

/-- A group of buttons; the first is the default if it confirms a dialog. -/
def buttonGroup (buttons : List Field) : Numbered Element := do
  let id ← freshId
  let elements ← buttons.zipIdx.mapM (fun (f, i) =>
    button (i == 0 && f.mxevent == .text confirmEvent) f.label.plain f.mxevent.plain)
  pure (.node "buttongroup" [("id", id)] elements)

end Formwork.Page
