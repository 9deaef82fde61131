import Formwork.Decimal.Numeral
import Formwork.Value

/-!
The meaning of plain scalars. A scalar written without quotes may stand for nothing, a truth value,
a number or a date; the forms are those of the types of YAML 1.1. Any other plain scalar is a text.
-/
namespace Formwork.Yaml

/-- What a plain scalar stands for. -/
inductive Meaning where
  /-- A value of the data model. -/
  | value (v : Value)
  /-- The key that merges another mapping. -/
  | merge
  /-- The sign `=`, which stands for no value. -/
  | defaultSign
  deriving Repr

def trueWords : List String :=
  ["yes", "Yes", "YES", "true", "True", "TRUE", "on", "On", "ON"]

def falseWords : List String :=
  ["no", "No", "NO", "false", "False", "FALSE", "off", "Off", "OFF"]

def nullWords : List String :=
  ["", "~", "null", "Null", "NULL"]

/-- Whether the characters are a digit followed by digits and low lines. -/
def isDigitRun (cs : List Char) : Bool :=
  match cs with
  | c :: rest => c.isDigit && rest.all (fun d => d.isDigit || d == '_')
  | [] => false

/-- The characters without low lines. -/
def dropLowLines (cs : List Char) : List Char :=
  cs.filter (· != '_')

/-- The number that digits spell in a base. -/
def valueInBase (base : Nat) (cs : List Char) : Nat :=
  cs.foldl (fun n c =>
    base * n + (if c.isDigit then c.toNat - 48 else c.toLower.toNat - 87)) 0

def splitColons : List Char → List (List Char)
  | [] => [[]]
  | c :: cs =>
    match splitColons cs with
    | part :: parts => if c == ':' then [] :: part :: parts else (c :: part) :: parts
    | [] => [[c]]

/-- Whether the characters are a number below sixty of one or two digits. -/
def isSixtieth (cs : List Char) : Bool :=
  match cs with
  | [c] => c.isDigit
  | [c, d] => '0' ≤ c && c ≤ '5' && d.isDigit
  | _ => false

/-- The size of an integer without its sign. -/
def integerSize? (cs : List Char) : Option Nat :=
  match cs with
  | '0' :: 'b' :: c :: rest =>
    if (c :: rest).all (fun d => d == '0' || d == '1' || d == '_') then
      some (valueInBase 2 (dropLowLines (c :: rest)))
    else none
  | '0' :: 'x' :: c :: rest =>
    if (c :: rest).all (fun d => d.isDigit || ('a' ≤ d.toLower && d.toLower ≤ 'f') || d == '_') then
      some (valueInBase 16 (dropLowLines (c :: rest)))
    else none
  | ['0'] => some 0
  | '0' :: c :: rest =>
    if (c :: rest).all (fun d => ('0' ≤ d && d ≤ '7') || d == '_') then
      some (valueInBase 8 (dropLowLines (c :: rest)))
    else none
  | _ =>
    if isDigitRun cs then some (digitsValue (dropLowLines cs))
    else match splitColons cs with
      | whole :: part :: parts =>
        if isDigitRun whole && (part :: parts).all isSixtieth then
          some ((part :: parts).foldl (fun n p => 60 * n + digitsValue p)
            (digitsValue (dropLowLines whole)))
        else none
      | _ => none

/-- An exponent with its sign, as the end of a number. -/
def exponent? (cs : List Char) : Option Int :=
  match cs with
  | [] => some 0
  | e :: s :: d :: rest =>
    if (e == 'e' || e == 'E') && (s == '+' || s == '-') && (d :: rest).all Char.isDigit then
      let size : Int := (digitsValue ((d :: rest).take 20) : Nat)
      some (if s == '-' then -size else size)
    else none
  | _ => none

/-- A floating point number without its sign, `bare` when it has none. -/
def decimal? (negative bare : Bool) (cs : List Char) : Option Double :=
  if cs == ".inf".toList || cs == ".Inf".toList || cs == ".INF".toList then
    some (.infinite negative)
  else if bare && (cs == ".nan".toList || cs == ".NaN".toList || cs == ".NAN".toList) then
    some .nan
  else
    let (whole, rest) := cs.span (fun c => c.isDigit || c == '_' || c == ':')
    match rest with
    | '.' :: more =>
      let (fraction, ending) := more.span (fun c => c.isDigit || c == '_')
      let digits := dropLowLines fraction
      let parts := splitColons whole
      if parts.length > 1 then
        if ending.isEmpty && isDigitRun (parts.headD []) && (parts.drop 1).all isSixtieth then
          let n := (parts.drop 1).foldl (fun n p => 60 * n + digitsValue p)
            (digitsValue (dropLowLines (parts.headD [])))
          some (decimalValue negative (Nat.toDigits 10 n ++ digits) (-(digits.length : Int)))
        else none
      else if isDigitRun whole || (whole.isEmpty && bare && isDigitRun fraction) then
        (exponent? ending).map (fun e =>
          decimalValue negative (dropLowLines whole ++ digits) (e - (digits.length : Int)))
      else none
    | _ => none

def twoDigits? : List Char → Option (Nat × List Char)
  | a :: b :: rest => if a.isDigit && b.isDigit then some (digitsValue [a, b], rest) else none
  | _ => none

def oneOrTwoDigits? : List Char → Option (Nat × List Char)
  | a :: b :: rest =>
    if a.isDigit && b.isDigit then some (digitsValue [a, b], rest)
    else if a.isDigit then some (digitsValue [a], b :: rest) else none
  | [a] => if a.isDigit then some (digitsValue [a], []) else none
  | [] => none

/-- A number written with two digits. -/
def padTwo (n : Nat) : String :=
  if n < 10 then "0" ++ toString n else toString n

/-- The text of a time zone, `some ""` when there is none. -/
def zone? (cs : List Char) : Option String :=
  match cs.dropWhile (fun c => c == ' ' || c == '\t') with
  | [] => if cs.isEmpty then some "" else none
  | ['Z'] => some "+00:00"
  | s :: rest =>
    if s != '+' && s != '-' then none
    else match oneOrTwoDigits? rest with
      | some (hours, []) => some (s.toString ++ padTwo hours ++ ":00")
      | some (hours, ':' :: more) =>
        match twoDigits? more with
        | some (minutes, []) => some (s.toString ++ padTwo hours ++ ":" ++ padTwo minutes)
        | _ => none
      | _ => none

/-- A date, or a date and a time, as it is displayed. -/
def date? (cs : List Char) : Option String :=
  let year := cs.take 4
  match cs.drop 4 with
  | '-' :: rest =>
    if !(year.length == 4 && year.all Char.isDigit) then none
    else match oneOrTwoDigits? rest with
      | some (month, '-' :: rest') =>
        match oneOrTwoDigits? rest' with
        | some (day, ending) =>
          let shown := String.ofList year ++ "-" ++ padTwo month ++ "-" ++ padTwo day
          if ending.isEmpty then if cs.length == 10 then some shown else none
          else
            let time? : Option (List Char) := match ending with
              | c :: more =>
                if c == 'T' || c == 't' then some more
                else if c == ' ' || c == '\t' then
                  some (more.dropWhile (fun c => c == ' ' || c == '\t'))
                else none
              | [] => none
            time?.bind (fun time =>
              match oneOrTwoDigits? time with
              | some (hour, ':' :: more) =>
                match twoDigits? more with
                | some (minute, ':' :: more) =>
                  match twoDigits? more with
                  | some (second, more) =>
                    let (fraction, more) : List Char × List Char := match more with
                      | '.' :: ds => ds.span Char.isDigit
                      | more => ([], more)
                    let micro := (fraction ++ List.replicate 6 '0').take 6
                    (zone? more).map (fun zone =>
                      shown ++ " " ++ padTwo hour ++ ":" ++ padTwo minute ++ ":" ++ padTwo second ++
                        (if micro.all (· == '0') then "" else "." ++ String.ofList micro) ++ zone)
                  | none => none
                | _ => none
              | _ => none)
        | none => none
      | _ => none
  | _ => none

/-- What a plain scalar stands for. -/
def meaning (s : String) : Meaning :=
  let cs := s.toList
  let (negative, unsigned) := takeSign cs
  let bare := unsigned.length == cs.length
  if trueWords.contains s then .value (.bool true)
  else if falseWords.contains s then .value (.bool false)
  else if nullWords.contains s then .value .null
  else match decimal? negative bare unsigned with
    | some x => .value (.double x)
    | none =>
      match integerSize? unsigned with
      | some n => .value (.int (if negative then -(n : Int) else (n : Int)))
      | none =>
        if s == "<<" then .merge
        else if s == "=" then .defaultSign
        else match date? cs with
          | some d => .value (.date d)
          | none => .value (.text s)

/-- Whether a text written plainly would be read as that text. -/
def readsAsText (s : String) : Bool :=
  match meaning s with
  | .value (.text _) => true
  | _ => false

end Formwork.Yaml
