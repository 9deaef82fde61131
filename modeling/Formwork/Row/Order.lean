import Formwork.Row.Basic
import Formwork.Settings

/-!
The display order of rows. All list rows form one group; header rows are grouped by tab and sub-tab,
detail rows also by relationship. Inside a group a row stands at its order, or at its place in the
list when it has none, and rows at the same place keep their sequence.
-/
namespace Formwork.Row

/-- The key of the group that a row belongs to. -/
def groupKey (s : Settings) (r : Row) : String :=
  let tab := (r.tabName.orElse (.text s.defaultTab)).plain
  let sub := r.subTabName.words
  match r.area with
  | .list => "list"
  | .header => "header:" ++ tab ++ ":" ++ sub
  | _ =>
    let relationship := (r.relationship.orElse (.text s.defaultRelationship)).plain
    "detail:" ++ tab ++ ":" ++ sub ++ ":" ++ relationship

/-- The rows of a group with their places in the list, in display order. -/
def displayed (s : Settings) (key : String) (rows : List Row) : List (Row × Nat) :=
  (rows.zipIdx.filter (fun (r, _) => r.groupKey s == key)).mergeSort
    (fun (a, i) (b, j) => decide (a.order.getD i ≤ b.order.getD j))

/-- Give the rows at the listed places their ranks in the list as orders. -/
def renumber (places : List Nat) (rows : List Row) : List Row :=
  rows.zipIdx.map (fun (r, i) => match places.idxOf? i with
    | some n => { r with order := some (n : Int) }
    | none => r)

/-- Exchange the entries at two positions of a list. -/
def exchange (places : List Nat) (p q : Nat) : List Nat :=
  match places[p]?, places[q]? with
  | some a, some b => (places.set p b).set q a
  | _, _ => places

/-- Exchange a row with its neighbour in the display order of its group; `target` tells the
neighbour's position from the row's own. -/
def exchangeWith (s : Settings) (target : Nat → Option Nat) (index : Int) (rows : List Row) :
    List Row :=
  match (if index < 0 then none else rows[index.toNat]?) with
  | none => rows
  | some r =>
    let places := (displayed s (r.groupKey s) rows).map (·.2)
    let position := places.idxOf index.toNat
    match target position with
    | some other =>
      if other < places.length then renumber (exchange places position other) rows else rows
    | none => rows

/-- Move a row one place earlier in its group. -/
def moveUp (s : Settings) (index : Int) (rows : List Row) : List Row :=
  exchangeWith s (fun p => if p == 0 then none else some (p - 1)) index rows

/-- Move a row one place later in its group. -/
def moveDown (s : Settings) (index : Int) (rows : List Row) : List Row :=
  exchangeWith s (fun p => some (p + 1)) index rows

/-- The keys of the groups, by first occurrence. -/
def groupKeys (s : Settings) (rows : List Row) : List String :=
  distinct (rows.map (groupKey s))

/-- Give every group the orders 0, 1, 2 and so on in its display order. -/
def normalizeOrders (s : Settings) (rows : List Row) : List Row :=
  (groupKeys s rows).foldl
    (fun done key => renumber ((displayed s key rows).map (·.2)) done) rows

/-- The rows of one group in display order. -/
def sortGroup (s : Settings) (key : String) (rows : List Row) : List Row :=
  (displayed s key rows).map (·.1)

/-- All rows, group by group, in display order. -/
def sortByOrder (s : Settings) (rows : List Row) : List Row :=
  (groupKeys s rows).flatMap (fun key => sortGroup s key rows)

end Formwork.Row
