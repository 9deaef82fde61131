import Formwork.Classes
import Formwork.Decimal.Numeral
import Formwork.Text.Match
import Formwork.Text.Reference

/-!
Attributes of tags. An attribute has a name, possibly behind a prefix and a colon, and a value
between double quotes, in which character references are decoded. Look-ups go by the name behind the
prefix, the case of letters ignored, and take the first attribute that fits. Reading fails only
where an integer, in a value or in a reference, has more digits than are read.
-/
namespace Formwork.Form

/-- Attributes by their qualified names, each name once. -/
abbrev Attributes := List (String × String)

def isAttributeChar (c : Char) : Bool :=
  Text.isWordChar c || c == '.' || c == '-'

/-- A run of characters of a class that is not empty, and the rest. -/
def spanOf? (p : Char → Bool) (cs : List Char) : Option (List Char × List Char) :=
  let run := cs.takeWhile p
  if run.isEmpty then none else some (run, cs.dropWhile p)

/-- The name of an attribute at the start of a text, with its prefix, and the rest. -/
def attributeName? (cs : List Char) : Option (List Char × List Char) :=
  match spanOf? isAttributeChar cs with
  | none => none
  | some (first, ':' :: rest) =>
    match spanOf? isAttributeChar rest with
    | some (second, rest') => some (first ++ ':' :: second, rest')
    | none => none
  | some (first, rest) => some (first, rest)

/-- The value between double quotes after an equals sign, and the rest. -/
def attributeValue? (cs : List Char) : Option (List Char × List Char) :=
  match cs.dropWhile Text.isBlank with
  | '=' :: rest =>
    match rest.dropWhile Text.isBlank with
    | '\x22' :: rest' =>
      match rest'.dropWhile (· != '\x22') with
      | '\x22' :: after => some (rest'.takeWhile (· != '\x22'), after)
      | _ => none
    | _ => none
  | _ => none

/-- An attribute at the start of a text: name and value as they are written, and the rest. -/
def attribute? (cs : List Char) : Option ((List Char × List Char) × List Char) :=
  match attributeName? cs with
  | none => none
  | some (name, rest) => (attributeValue? rest).map (fun (value, after) => ((name, value), after))

/-- The attributes in the text of a tag as they are written. A repeated name keeps its first
value. -/
def writtenAttributes (cs : List Char) : List (String × String) :=
  firsts (·.1) ((Text.Match.findAll (fun _ => attribute?) cs).map (fun found =>
    (String.ofList found.value.1, String.ofList found.value.2)))

/-- The attributes in the text of a tag, the values decoded. -/
def readAttributes (cs : List Char) : Except Error Attributes :=
  (writtenAttributes cs).mapM (fun (name, value) => (Text.unescape value).map (name, ·))

/-- The name behind the last colon. -/
def localName (qualified : String) : String :=
  String.ofList ((qualified.toList.reverse.takeWhile (· != ':')).reverse)

namespace Attributes

/-- The value of the first attribute with a local name. -/
def find? (a : Attributes) (name : String) : Option String :=
  (List.find? (fun (q, _) => Text.lower (localName q) == Text.lower name) a).map (·.2)

/-- The value of an attribute, empty when it is missing. -/
def text (a : Attributes) (name : String) : String :=
  (a.find? name).getD ""

/-- Whether there is an attribute with a local name. -/
def has (a : Attributes) (name : String) : Bool :=
  (a.find? name).isSome

/-- The first value that is not empty among those of several attributes. -/
def anyOf (a : Attributes) (names : List String) : String :=
  ((names.map a.text).find? (· != "")).getD ""

/-- The integer at the start of a value, blanks before it passed over: whether it is below zero, and
its digits. -/
def leadingDigits (s : String) : Bool × List Char :=
  let (negative, cs) := takeSign (s.toList.dropWhile Text.isBlank)
  (negative, cs.takeWhile Text.isDecimalDigit)

/-- The integer at the start of a value, if there is one. -/
def leadingInteger? (s : String) : Option Int :=
  let (negative, digits) := leadingDigits s
  if digits.isEmpty then none
  else
    let n : Int := digitsValue (digits.map plainDigit)
    some (if negative then -n else n)

/-- The integer at the start of the value of an attribute, or the default; an integer of more digits
than are read is an error. -/
def integer (a : Attributes) (name : String) (default : Int) : Except Error Int :=
  let value := a.text name
  if isOverlong (leadingDigits value).2 then .error .overlong
  else .ok ((leadingInteger? value).getD default)

/-- The truth value of an attribute, if it is one. -/
def flag? (a : Attributes) (name : String) : Option Bool :=
  let word := Text.lower (Text.trim (a.text name))
  if word == "true" || word == "yes" then some true
  else if word == "false" || word == "no" then some false
  else none

/-- The truth value of an attribute, or the default. -/
def flag (a : Attributes) (name : String) (default : Bool) : Bool :=
  (a.flag? name).getD default

end Attributes

end Formwork.Form
