import Formwork.Text.Printable

/-!
Quoted display of a text in messages. The text stands between single quotes, or between double
quotes when it holds single quotes and no double one; what would not show is written as an escape.
-/
namespace Formwork.Text

/-- The last `width` digits of a number in base sixteen. -/
def hexDigits : Nat → Nat → List Char
  | 0, _ => []
  | width + 1, n => hexDigits width (n / 16) ++ [Nat.digitChar (n % 16)]

/-- How one character is shown between the quotes `mark`. -/
def showChar (mark c : Char) : List Char :=
  if c == mark || c == '\\' then ['\\', c]
  else if c == '\n' then ['\\', 'n']
  else if c == '\r' then ['\\', 'r']
  else if c == '\t' then ['\\', 't']
  else if isPrintable c then [c]
  else if c.toNat < 0x100 then '\\' :: 'x' :: hexDigits 2 c.toNat
  else if c.toNat < 0x10000 then '\\' :: 'u' :: hexDigits 4 c.toNat
  else '\\' :: 'U' :: hexDigits 8 c.toNat

def quoted (s : String) : String :=
  let cs := s.toList
  let mark : Char := if cs.contains '\x27' && !cs.contains '\x22' then '\x22' else '\x27'
  String.ofList (mark :: cs.flatMap (showChar mark) ++ [mark])

end Formwork.Text
