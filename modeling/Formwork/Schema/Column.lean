import Formwork.Row.Vocabulary

/-!
Columns of storage types: the length a type has where none is given, and the column that the
database makes for it.
-/
namespace Formwork.StorageType

/-- The length of a type where a row gives none; zero for types without one. -/
def defaultLength : StorageType → Int
  | .aln => 100
  | .upper => 100
  | .lower => 100
  | .longaln => 4000
  | .integer => 10
  | .smallint => 5
  | .decimal => 10
  | .float => 10
  | .yorn => 1
  | .gl => 20
  | _ => 0

/-- The first of two numbers if it is not zero, else the second. -/
def lengthOr (length default : Int) : Int :=
  if length == 0 then default else length

/-- An integer in digits, refused where it has more than are written. -/
def written (n : Int) : Except Error String :=
  if exceedsDigits n then .error .overlong else .ok (toString n)

def textColumn (length : Int) : Except Error String := do
  .ok ("VARCHAR2(" ++ (← written length) ++ ")")

def columnType (t : StorageType) (length scale : Int) : Except Error String :=
  match t with
  | .integer => .ok "NUMBER(10)"
  | .smallint => .ok "NUMBER(5)"
  | .decimal => number length scale
  | .float => number length scale
  | .date => .ok "DATE"
  | .time => .ok "DATE"
  | .datetime => .ok "TIMESTAMP"
  | .yorn => .ok "NUMBER(1)"
  | .clob => .ok "CLOB"
  | .gl => textColumn (lengthOr length 20)
  | _ => textColumn (lengthOr length 100)
where
  number (length scale : Int) : Except Error String := do
    let size ← written (lengthOr length 10)
    let places ← if 0 < scale then (written scale).map ("," ++ ·) else .ok ""
    .ok ("NUMBER(" ++ size ++ places ++ ")")

end Formwork.StorageType
