import Formwork.Value

/-!
Tables of comma-separated values. A cell may stand between double quotes; inside them a double quote
is written twice, and commas and line ends are part of the cell. The first row holds the headings;
every other row becomes a mapping from headings to cells.
-/
namespace Formwork.Table

/-- Where a reader stands. -/
inductive Place where
  | rowStart
  /-- After a carriage return that ended a row. -/
  | afterReturn
  /-- At the start of a cell that is not the first. -/
  | cellStart
  /-- In a cell outside quotes. -/
  | bare
  /-- Between quotes. -/
  | inside
  /-- After a quote that may close the cell. -/
  | closing
  deriving Repr, DecidableEq, Inhabited

/-- What a reader has read. Everything is kept with the newest part first. -/
structure Reader where
  place : Place := .rowStart
  cell : List Char := []
  /-- The cells of the row before this one. -/
  row : List String := []
  rows : List (List String) := []
  deriving Repr, Inhabited

namespace Reader

/-- Whether nothing of the row has been read. -/
def isFresh (r : Reader) : Bool :=
  r.place == .rowStart || r.place == .afterReturn

/-- The cells of the row with the current cell. -/
def cells (r : Reader) : List String :=
  String.ofList r.cell.reverse :: r.row

/-- Take a character into the cell. -/
def push (r : Reader) (c : Char) (place : Place) : Reader :=
  { r with cell := c :: r.cell, place }

/-- End the row; a row of which nothing has been read has no cells. -/
def endRow (r : Reader) (place : Place) : Reader :=
  let row := if r.isFresh then [] else r.cells.reverse
  { place, rows := row :: r.rows }

def feed (r : Reader) (c : Char) : Reader :=
  if r.place == .inside then
    if c == '\x22' then { r with place := .closing } else r.push c .inside
  else if c == '\n' then
    if r.place == .afterReturn then { r with place := .rowStart } else r.endRow .rowStart
  else if c == '\r' then r.endRow .afterReturn
  else if c == ',' then { r with place := .cellStart, cell := [], row := r.cells }
  else if c == '\x22' then
    match r.place with
    | .bare => r.push c .bare
    | .closing => r.push c .inside
    | _ => { r with place := .inside }
  else r.push c .bare

/-- The rows when the text is at its end; an open quote is closed there. -/
def finish (r : Reader) : List (List String) :=
  (if r.isFresh then r else r.endRow .rowStart).rows.reverse

end Reader

def rows (cs : List Char) : List (List String) :=
  (cs.foldl Reader.feed {}).finish

/-- The mapping of a row. Of two headings of one name the later counts. Cells beyond the headings
are kept together under no name, and headings beyond the cells have no value. -/
def record (headings row : List String) : List (Value × Value) :=
  let set (done : List (Value × Value)) (name : String) (v : Value) : List (Value × Value) :=
    Value.put (.text name) v done
  let named := (headings.zip row).foldl (fun done (name, cell) => set done name (.text cell)) []
  let beyond := row.drop headings.length
  if beyond.isEmpty then
    (headings.drop row.length).foldl (fun done name => set done name .null) named
  else named ++ [(.null, .texts beyond)]

/-- The mappings of a text: its rows under the headings, rows without cells left out. -/
def records (cs : List Char) : List (List (Value × Value)) :=
  match rows cs with
  | [] => []
  | headings :: body => (body.filter (fun row => !row.isEmpty)).map (record headings)

end Formwork.Table
