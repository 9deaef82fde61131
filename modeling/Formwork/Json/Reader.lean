import Formwork.Decimal.Numeral
import Formwork.Value

/-!
Reading JSON. The grammar is that of JSON with the words `NaN`, `Infinity` and `-Infinity` beside
the numbers. A number with a fraction or an exponent is a floating point number, any other an
integer. A repeated key keeps its first place and takes its last value.
-/
namespace Formwork.Json

def isSpace (c : Char) : Bool :=
  c == ' ' || c == '\t' || c == '\n' || c == '\r'

/-- The text after white space. -/
def skipSpace (cs : List Char) : List Char :=
  cs.dropWhile isSpace

/-- The value of four digits in base sixteen, and the rest. -/
def readHex4 (cs : List Char) : Option (Nat × List Char) :=
  let isHex (c : Char) : Bool := c.isDigit || ('a' ≤ c.toLower && c.toLower ≤ 'f')
  let digit (c : Char) : Nat := if c.isDigit then c.toNat - 48 else c.toLower.toNat - 87
  match cs with
  | a :: b :: c :: d :: rest =>
    if isHex a && isHex b && isHex c && isHex d then
      some (((digit a * 16 + digit b) * 16 + digit c) * 16 + digit d, rest)
    else none
  | _ => none

/-- The character that a letter after a backslash stands for. -/
def escapedChar? : Char → Option Char
  | '\x22' => some '\x22'
  | '\\' => some '\\'
  | '/' => some '/'
  | 'b' => some '\x08'
  | 'f' => some '\x0c'
  | 'n' => some '\n'
  | 'r' => some '\r'
  | 't' => some '\t'
  | _ => none

/-- The rest of a text literal after its opening quote: its characters, latest first, and what
follows the closing quote. A lone half of a surrogate pair becomes the replacement character. -/
def readText (fuel : Nat) (done : List Char) (cs : List Char) : Option (List Char × List Char) :=
  match fuel, cs with
  | 0, _ => none
  | _, [] => none
  | fuel + 1, c :: rest =>
    if c == '\x22' then some (done, rest)
    else if c == '\\' then
      match rest with
      | 'u' :: more =>
        match readHex4 more with
        | none => none
        | some (high, after) =>
          if 0xd800 ≤ high && high < 0xdc00 then
            match after with
            | '\\' :: 'u' :: more' =>
              match readHex4 more' with
              | some (low, after') =>
                if 0xdc00 ≤ low && low < 0xe000 then
                  readText fuel
                    (Char.ofNat (0x10000 + (high - 0xd800) * 0x400 + (low - 0xdc00)) :: done) after'
                else readText fuel (Char.ofNat 0xfffd :: done) after
              | none => none
            | _ => readText fuel (Char.ofNat 0xfffd :: done) after
          else if 0xdc00 ≤ high && high < 0xe000 then
            readText fuel (Char.ofNat 0xfffd :: done) after
          else readText fuel (Char.ofNat high :: done) after
      | e :: more =>
        match escapedChar? e with
        | some d => readText fuel (d :: done) more
        | none => none
      | [] => none
    else if c.toNat < 0x20 then none
    else readText fuel (c :: done) rest

/-- A text literal after its opening quote. -/
def readString (cs : List Char) : Option (String × List Char) :=
  (readText (cs.length + 1) [] cs).map (fun (done, rest) => (String.ofList done.reverse, rest))

/-- A number: its value and the rest. -/
def readNumber (cs : List Char) : Option (Value × List Char) :=
  let (negative, body) := match cs with
    | '-' :: rest => (true, rest)
    | cs => (false, cs)
  let (whole, rest) := body.span Char.isDigit
  let whole' := if whole.head? == some '0' then ['0'] else whole
  let rest := if whole.head? == some '0' then body.drop 1 else rest
  if whole'.isEmpty then none
  else
    let (fraction, rest) := match rest with
      | '.' :: more =>
        let (ds, after) := more.span Char.isDigit
        if ds.isEmpty then ([], rest) else (ds, after)
      | _ => ([], rest)
    let (exponent, rest) : Option Int × List Char := match rest with
      | e :: more =>
        if e == 'e' || e == 'E' then
          let (below, digits) := takeSign more
          let (ds, after) := digits.span Char.isDigit
          if ds.isEmpty then (none, rest)
          else
            let size : Int := (digitsValue (ds.take 20) : Nat)
            (some (if below then -size else size), after)
        else (none, rest)
      | [] => (none, rest)
    if fraction.isEmpty && exponent.isNone then
      let n : Int := (digitsValue whole' : Nat)
      some (.int (if negative then -n else n), rest)
    else
      some (.double (decimalValue negative (whole' ++ fraction)
        (exponent.getD 0 - (fraction.length : Int))), rest)

/-- The rest of a text after a word at its start. -/
def afterWord? (w : String) (cs : List Char) : Option (List Char) :=
  if w.toList.isPrefixOf cs then some (cs.drop w.length) else none

def wordValues : List (String × Value) :=
  [("null", .null), ("true", .bool true), ("false", .bool false), ("NaN", .double .nan),
   ("Infinity", .double (.infinite false)), ("-Infinity", .double (.infinite true))]

mutual

/-- A value at the start of the text, and the rest. -/
def readValue (fuel : Nat) (cs : List Char) : Option (Value × List Char) :=
  match fuel with
  | 0 => none
  | fuel + 1 =>
    match cs with
    | '\x22' :: rest => (readString rest).map (fun (s, after) => (.text s, after))
    | '[' :: rest =>
      match skipSpace rest with
      | ']' :: after => some (.list [], after)
      | items => (readItems fuel [] items).map (fun (vs, after) => (.list vs, after))
    | '\x7b' :: rest =>
      match skipSpace rest with
      | '\x7d' :: after => some (.map [], after)
      | entries => (readEntries fuel [] entries).map (fun (es, after) => (.map es, after))
    | _ =>
      match wordValues.findSome? (fun (w, v) => (afterWord? w cs).map (v, ·)) with
      | some found => some found
      | none => readNumber cs

/-- The items of a sequence up to its closing bracket. -/
def readItems (fuel : Nat) (done : List Value) (cs : List Char) :
    Option (List Value × List Char) :=
  match fuel with
  | 0 => none
  | fuel + 1 =>
    match readValue fuel cs with
    | none => none
    | some (v, after) =>
      match skipSpace after with
      | ',' :: rest => readItems fuel (v :: done) (skipSpace rest)
      | ']' :: rest => some ((v :: done).reverse, rest)
      | _ => none

/-- The entries of a mapping up to its closing brace. -/
def readEntries (fuel : Nat) (done : List (Value × Value)) (cs : List Char) :
    Option (List (Value × Value) × List Char) :=
  match fuel with
  | 0 => none
  | fuel + 1 =>
    match cs with
    | '\x22' :: rest =>
      match readString rest with
      | none => none
      | some (key, after) =>
        match skipSpace after with
        | ':' :: more =>
          match readValue fuel (skipSpace more) with
          | none => none
          | some (v, after) =>
            let done := Value.put (.text key) v done
            match skipSpace after with
            | ',' :: rest => readEntries fuel done (skipSpace rest)
            | '\x7d' :: rest => some (done, rest)
            | _ => none
        | _ => none
    | _ => none

end

/-- Read a whole document; `none` when the text is no JSON document. -/
def read? (s : String) : Option Value :=
  let cs := skipSpace s.toList
  match readValue (2 * cs.length + 2) cs with
  | some (v, rest) => if (skipSpace rest).isEmpty then some v else none
  | none => none

end Formwork.Json
