import Formwork.Markup.Element
import Formwork.Text.Blank

/-!
The text of a document. Every element stands on a line of its own, indented by its depth, and an
element without children is written with a single tag. In attribute values the characters that end
a value or a tag, and line breaks and tabs, are written as references.
-/
namespace Formwork.Markup

def escapedInValue (c : Char) : String :=
  match c with
  | '&' => "&amp;"
  | '<' => "&lt;"
  | '>' => "&gt;"
  | '\x22' => "&quot;"
  | '\r' => "&#13;"
  | '\n' => "&#10;"
  | '\t' => "&#09;"
  | c => String.singleton c

def escapedBetween (c : Char) : String :=
  match c with
  | '&' => "&amp;"
  | '<' => "&lt;"
  | '>' => "&gt;"
  | c => String.singleton c

def escapeValue (s : String) : String :=
  String.join (s.toList.map escapedInValue)

/-- The text of attributes, each after a space. -/
def attributesText (pairs : List (String × String)) : String :=
  String.join (pairs.map (fun (name, value) => " " ++ name ++ "=\"" ++ escapeValue value ++ "\""))

/-- A line end and the indentation of a depth. -/
def lineTo (space : String) (depth : Nat) : String :=
  "\n" ++ String.join (List.replicate depth (String.join (space.toList.map escapedBetween)))

mutual

/-- The text of an element that stands at a depth. -/
def elementText (space : String) (depth : Nat) : Element → String
  | .node tag attributes children =>
    let opening := "<" ++ tag ++ attributesText attributes
    if children.isEmpty then opening ++ " />"
    else
      opening ++ ">" ++ lineTo space (depth + 1) ++ childrenText space (depth + 1) children ++
        "</" ++ tag ++ ">"

/-- The texts of children at a depth, each with the line end after it. An indentation that is not
white space is not taken back before the closing tag. -/
def childrenText (space : String) (depth : Nat) : List Element → String
  | [] => ""
  | e :: rest =>
    let after := if rest.isEmpty && Text.isBlankText space then depth - 1 else depth
    elementText space depth e ++ lineTo space after ++ childrenText space depth rest

end

/-- The line that opens every document. -/
def declaration : String := "<?xml version=\"1.0\" encoding=\"UTF-8\"?>"

/-- The text of a document, with a document type where one is given. -/
def documentText (doctype space : String) (root : Element) : String :=
  declaration ++ "\n" ++ (if doctype == "" then "" else doctype ++ "\n") ++
    elementText space 0 root ++ "\n"

end Formwork.Markup
