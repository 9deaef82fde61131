import Formwork.Decimal.Double
import Formwork.Text.Blank
import Formwork.Text.Case
import Formwork.Text.Digit

/-!
Numbers from text. An integer is an optional sign and digits of any script, single low lines
allowed between digits; a decimal may have a fraction and an exponent besides, or spell an
infinity or `nan`. Blanks around the number are passed over, the information separators excepted.
-/
namespace Formwork

/-- Characters that may surround a number. -/
def isNumberPadding (c : Char) : Bool :=
  Text.isBlank c && !(0x1c ≤ c.toNat && c.toNat ≤ 0x1f)

/-- Digits of any script as digits below ten; other characters stay as they are. -/
def plainDigit (c : Char) : Char :=
  match Text.digitValue? c with
  | some d => Char.ofNat (48 + d)
  | none => c

/-- The characters of a number text, its padding removed and its digits made plain. -/
def numberChars (s : String) : List Char :=
  (Text.stripWhere isNumberPadding s.toList).map plainDigit

/-- Split off a sign: whether it is a minus, and the rest. -/
def takeSign : List Char → Bool × List Char
  | '-' :: rest => (true, rest)
  | '+' :: rest => (false, rest)
  | cs => (false, cs)

/-- Digits with single low lines between them: the digits alone, and the rest of the text. -/
def takeDigits : List Char → List Char × List Char
  | [] => ([], [])
  | c :: '_' :: d :: rest =>
    if !c.isDigit then ([], c :: '_' :: d :: rest)
    else if d.isDigit then
      let (ds, left) := takeDigits (d :: rest)
      (c :: ds, left)
    else ([c], '_' :: d :: rest)
  | c :: cs =>
    if c.isDigit then
      let (ds, left) := takeDigits cs
      (c :: ds, left)
    else ([], c :: cs)

/-- The number that plain digits spell. -/
def digitsValue (ds : List Char) : Nat :=
  ds.foldl (fun n c => 10 * n + (c.toNat - 48)) 0

/-- The longest integer that is read or written digit by digit; longer ones are read as decimals and
not written. -/
def integerDigitLimit : Nat := 4300

/-- The first number of more digits than that. -/
def firstOverlong : Nat := Nat.pow 10 integerDigitLimit

/-- Whether digits are more than are read. -/
def isOverlong (ds : List Char) : Bool :=
  integerDigitLimit < ds.length

/-- Whether an integer has more digits than are written. -/
@[irreducible] def exceedsDigits (n : Int) : Bool :=
  decide (firstOverlong ≤ n.natAbs)

def readInteger? (s : String) : Option Int :=
  let (negative, cs) := takeSign (numberChars s)
  match takeDigits cs with
  | ([], _) => none
  | (ds, []) =>
    if ds.length > integerDigitLimit then none
    else
      let n : Int := (digitsValue ds : Nat)
      some (if negative then -n else n)
  | _ => none

/-- The nearest floating point number to `±digits · 10^power`. -/
def decimalValue (negative : Bool) (ds : List Char) (power : Int) : Double :=
  let ds := ds.dropWhile (· == '0')
  let size := (ds.length : Int) + power
  if ds.isEmpty then .finite negative 0 Double.leastExponent
  else if size > 400 then .infinite negative
  else if size < -400 then .finite negative 0 Double.leastExponent
  else
    let n := digitsValue ds
    if power ≥ 0 then Double.ofRatio negative (n * Nat.pow 10 power.toNat) 1
    else Double.ofRatio negative n (Nat.pow 10 (-power).toNat)

/-- Read a decimal: digits, fraction and exponent, at least one digit before the exponent. -/
def readDecimal? (s : String) : Option Double :=
  let (negative, cs) := takeSign (numberChars s)
  let name := Text.lower (String.ofList cs)
  if name == "inf" || name == "infinity" then some (.infinite negative)
  else if name == "nan" then some .nan
  else
    let (whole, rest) := takeDigits cs
    let (fraction, rest) := match rest with
      | '.' :: more =>
        let (ds, left) := takeDigits more
        (ds, left)
      | rest => ([], rest)
    if whole.isEmpty && fraction.isEmpty then none
    else
      let value (exponent : Int) : Double :=
        decimalValue negative (whole ++ fraction) (exponent - (fraction.length : Int))
      match rest with
      | [] => some (value 0)
      | e :: more =>
        if e == 'e' || e == 'E' then
          let (below, more) := takeSign more
          match takeDigits more with
          | ([], _) => none
          | (ds, []) =>
            -- exponents beyond any floating point number are cut; no digits make up for them
            let size : Int := (digitsValue (ds.take 20) : Nat)
            some (value (if below then -size else size))
          | _ => none
        else none

end Formwork
