import Formwork.Classes
import Formwork.Form.Attribute

/-!
Tags. A document is scanned for the tags of one kind of element at a time; what stands between them
is of no interest. A tag may have a prefix before its name, and it must have a blank after it, so
that a tag without attributes is only seen when it closes itself after a blank.
-/
namespace Formwork.Form

def isPrefixChar (c : Char) : Bool :=
  Text.isWordChar c || c == '-'

/-- The text after a word at the start. -/
def afterWord? (w cs : List Char) : Option (List Char) :=
  if w.isPrefixOf cs then some (cs.drop w.length) else none

/-- What follows a tag's name, which may have a prefix, in the way that `k` reads it. -/
def afterTagName? {α : Type} (tag cs : List Char) (k : List Char → Option α) : Option α :=
  let plain := (afterWord? tag cs).bind k
  match spanOf? isPrefixChar cs with
  | some (_, ':' :: rest) => ((afterWord? tag rest).bind k) <|> plain
  | _ => plain

/-- What stands between a tag's name and its end: a blank at least, and then the attributes. The
text is cut before the `>` that follows. -/
def tagBody? (cs : List Char) : Option (List Char × List Char) :=
  match cs with
  | c :: _ =>
    if Text.isBlank c then
      let rest := cs.dropWhile Text.isBlank
      match rest.dropWhile (· != '>') with
      | '>' :: after => some (rest.takeWhile (· != '>'), after)
      | _ => none
    else none
  | [] => none

/-- The opening tag of an element at the start of a text: its body and the rest. -/
def openTag? (tag cs : List Char) : Option (List Char × List Char) :=
  match cs with
  | '<' :: rest => afterTagName? tag rest tagBody?
  | _ => none

/-- Whether the body of a tag ends with the stroke that closes the element at once. -/
def closesItself (body : List Char) : Bool :=
  body.getLast? == some '/'

/-- The body of a tag without the stroke that closes the element. -/
def attributeText (body : List Char) : List Char :=
  if closesItself body then body.dropLast else body

structure Tag where
  attributes : Attributes
  /-- The offset of its first character. -/
  start : Nat
  /-- The offset just after its last character. -/
  stop : Nat
  /-- Whether it closes the element at once. -/
  selfClosing : Bool
  deriving Repr, BEq, Inhabited

/-- The bodies of the opening tags of a kind of element, in document order. -/
def writtenTags (tag : String) (document : List Char) : List (Text.Match.Found (List Char)) :=
  Text.Match.findAll (fun _ => openTag? tag.toList) document

/-- Read the attributes of a tag that was found. -/
def Tag.ofFound (found : Text.Match.Found (List Char)) : Except Error Tag :=
  (readAttributes (attributeText found.value)).map (fun attributes =>
    { attributes
      start := found.start
      stop := found.stop
      selfClosing := closesItself found.value })

/-- The opening tags of a kind of element, in document order. -/
def scanTags (tag : String) (document : List Char) : Except Error (List Tag) :=
  (writtenTags tag document).mapM Tag.ofFound

/-- A closing tag at the start of a text, in the way that `ends` reads what follows the name. -/
def closeTag? (tag : List Char) (ends : List Char → Option (List Char)) (cs : List Char) :
    Option (Unit × List Char) :=
  match cs with
  | '<' :: '/' :: rest => (afterTagName? tag rest ends).map ((), ·)
  | _ => none

def tagEnd? : List Char → Option (List Char)
  | '>' :: rest => some rest
  | _ => none

/-- The end of a tag after blanks. -/
def looseTagEnd? (cs : List Char) : Option (List Char) :=
  tagEnd? (cs.dropWhile Text.isBlank)

/-- The offsets of the closing tags of a kind of element: where each starts and stops. -/
def scanCloses (tag : String) (document : List Char) : List (Nat × Nat) :=
  (Text.Match.findAll (fun _ => closeTag? tag.toList looseTagEnd?) document).map
    (fun found => (found.start, found.stop))

/-- Where the element of a tag stops: after the first closing tag behind it, or after the tag itself
when it closes itself or nothing closes it. -/
def Tag.elementStop (t : Tag) (closes : List (Nat × Nat)) : Nat :=
  if t.selfClosing then t.stop
  else ((closes.find? (fun (start, _) => t.stop ≤ start)).map (·.2)).getD t.stop

end Formwork.Form
