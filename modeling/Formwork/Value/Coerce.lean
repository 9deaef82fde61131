import Formwork.Decimal.Numeral
import Formwork.Error
import Formwork.Text.Blank
import Formwork.Text.Case
import Formwork.Value.Display

/-!
Numbers and truth values read leniently from values of any kind. What has no meaning as a number or
a truth value gives the default; only a number that is infinite is refused, because it has no
integer part. `integer` is the strict reading, which refuses what is no number. Where a text is
asked for, integers of more digits than are written out are refused.
-/
namespace Formwork.Value

/-- Nothing read as the empty text, anything else as it is. -/
def orEmpty : Value → Value
  | .null => .text ""
  | v => v

/-- The text of a value, empty for nothing. -/
def plain (v : Value) : String :=
  v.orEmpty.toText

mutual

/-- Whether a value holds an integer of more digits than are written out. -/
def overlong : Value → Bool
  | .int i => exceedsDigits i
  | .list items => overlongItems items
  | .map entries => overlongEntries entries
  | _ => false

def overlongItems : List Value → Bool
  | [] => false
  | v :: rest => overlong v || overlongItems rest

def overlongEntries : List (Value × Value) → Bool
  | [] => false
  | (k, v) :: rest => overlong k || overlong v || overlongEntries rest

end

@[simp] theorem overlong_text (s : String) : overlong (.text s) = false := rfl

/-- The value where its text is asked for; an integer that is not written out is refused. -/
def showable (v : Value) : Except Error Value :=
  if v.overlong then .error .overlong else .ok v

/-- The integer part of a number, the default when it is not a number. -/
def wholePart (default : Int) : Double → Except Error Int
  | .infinite _ => .error .infinite
  | x => .ok (x.truncate?.getD default)

/-- The integer that a value stands for, or the default. -/
def integerOr (default : Int) : Value → Except Error Int
  | .bool b => .ok (if b then 1 else 0)
  | .int i => .ok i
  | .double x => wholePart default x
  | .text s =>
    match readInteger? s with
    | some i => .ok i
    | none =>
      match readDecimal? s with
      | some x => wholePart default x
      | none => .ok default
  | _ => .ok default

def yesWords : List String := ["true", "yes", "y", "1"]

def noWords : List String := ["false", "no", "n", "0"]

/-- The truth value that a value stands for, or the default. -/
def flagOr (default : Bool) : Value → Bool
  | .bool b => b
  | .int i => i != 0
  | .double x => !x.isZero
  | .text s =>
    let word := Text.lower (Text.trim s)
    if yesWords.contains word then true
    else if noWords.contains word then false
    else default
  | _ => default

/-- The integer that a value is or spells; other values are refused. -/
def integer : Value → Except Error Int
  | .bool b => .ok (if b then 1 else 0)
  | .int i => .ok i
  | .double .nan => .error (.notInteger "cannot convert float NaN to integer")
  | .double x => wholePart 0 x
  | .text s =>
    match readInteger? s with
    | some i => .ok i
    | none => .error (.notInteger ("invalid literal for int() with base 10: " ++
        String.ofList ((Text.quoted s).toList.take 200)))
  | v => .error (.wrongKind ("int() argument must be a string, a bytes-like object or a real " ++
      "number, not '" ++ v.kindName ++ "'"))

/-- The items over which a value can be walked: of a list its items, of a mapping its keys, of a
text its characters. -/
def items : Value → Except Error (List Value)
  | .list items => .ok items
  | .map entries => .ok (entries.map (·.1))
  | .text s => .ok (s.toList.map (fun c => .text (String.singleton c)))
  | v => .error (.wrongKind ("'" ++ v.kindName ++ "' object is not iterable"))

end Formwork.Value
