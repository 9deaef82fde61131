import Formwork.Text.Quoted
import Formwork.Value

/-!
Texts of values. `toText` gives a text itself and the display of anything else; the display of a
sequence or a mapping shows texts inside it between quotes.
-/
namespace Formwork.Value

mutual

/-- The display of a value, texts between quotes. -/
def display : Value → String
  | .null => "None"
  | .bool b => if b then "True" else "False"
  | .int i => toString i
  | .double x => x.toText
  | .text s => Text.quoted s
  | .date s => s
  | .list items => "[" ++ String.intercalate ", " (displayItems items) ++ "]"
  | .map entries => "\x7b" ++ String.intercalate ", " (displayEntries entries) ++ "\x7d"

def displayItems : List Value → List String
  | [] => []
  | v :: rest => display v :: displayItems rest

def displayEntries : List (Value × Value) → List String
  | [] => []
  | (k, v) :: rest => (display k ++ ": " ++ display v) :: displayEntries rest

end

/-- The text of a value: a text as it is, anything else by its display. -/
def toText : Value → String
  | .text s => s
  | v => v.display

/-- The text of a value that counts as true, else the empty text. -/
def words (v : Value) : String :=
  if v.truthy then v.toText else ""

end Formwork.Value
