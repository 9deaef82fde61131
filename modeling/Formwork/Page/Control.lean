import Formwork.Application.Tree
import Formwork.Markup.Element

/-!
Controls of the page. Each field becomes one element, whose tag follows from the kind of control;
attributes stand in a fixed order and empty ones are left out. Every control draws one id.
-/
namespace Formwork.Page

/-- The attribute value for an input mode; the default mode is not written. -/
def modeWord (word : String) : String :=
  if word == "optional" then "" else word

/-- A text that is written only under a condition. -/
def only (condition : Bool) (s : String) : String :=
  if condition then s else ""

/-- A text box in the given mode. -/
def textBox (mode : InputMode) (f : Field) : Numbered Element := do
  let id ← freshId
  pure (.node "textbox" (givenAttributes [
    ("dataattribute", f.dataattribute),
    ("id", id),
    ("applink", f.applink.plain),
    ("inputmode", modeWord mode.word),
    ("label", f.label.plain),
    ("lookup", f.lookup.plain),
    ("menutype", only f.applink.truthy "NORMAL"),
    ("size", f.width)]) [])

def checkBox (f : Field) : Numbered Element := do
  let id ← freshId
  pure (.node "checkbox" (givenAttributes [
    ("dataattribute", f.dataattribute),
    ("id", id),
    ("inputmode", modeWord f.inputMode.word),
    ("label", f.label.plain)]) [])

/-- A text box of several lines. -/
def multilineTextBox (f : Field) : Numbered Element := do
  let id ← freshId
  pure (.node "multilinetextbox" (givenAttributes [
    ("columns", if f.width == "" then "45" else f.width),
    ("dataattribute", f.dataattribute),
    ("id", id),
    ("inputmode", modeWord f.inputMode.word),
    ("label", f.label.plain),
    ("rows", "7")]) [])

/-- The binding of the description part of a field: the description of its attribute, where none is
given. -/
def descriptionBinding (f : Field) : String :=
  if f.descDataattribute.truthy then f.descDataattribute.plain
  else
    let base := if f.dataattribute.toList.contains '.' then f.dataattribute else f.fieldName.plain
    base ++ ".DESCRIPTION"

/-- A text box with a description part. -/
def multipartTextBox (f : Field) : Numbered Element := do
  let id ← freshId
  pure (.node "multiparttextbox" (givenAttributes [
    ("dataattribute", f.dataattribute),
    ("descdataattribute", descriptionBinding f),
    ("id", id),
    ("applink", f.applink.plain),
    ("menutype", only f.applink.truthy "normal"),
    ("inputmode", modeWord f.inputMode.word),
    ("label", f.label.plain),
    ("desclabel", f.descLabel.plain),
    ("descinputmode", modeWord f.descInputMode.plain),
    ("lookup", f.lookup.plain)]) [])

/-- A text that cannot be edited. -/
def staticText (f : Field) : Numbered Element := do
  let id ← freshId
  pure (.node "statictext" (givenAttributes [
    ("dataattribute", f.dataattribute),
    ("id", id),
    ("label", f.label.plain)]) [])

/-- A button with a label that raises an event; the default one of its group is marked. -/
def button (isDefault : Bool) (label event : String) : Numbered Element := do
  let id ← freshId
  pure (.node "pushbutton" (givenAttributes [
    ("default", only isDefault "true"),
    ("id", id),
    ("label", label),
    ("mxevent", event)]) [])

/-- The attachments of the record, under the id of the field if it has one. -/
def attachments (f : Field) : Numbered Element := do
  let id ← if f.id == "" then freshId else pure f.id
  pure (.node "attachments" [("id", id)] [])

/-- The control of a field; unknown kinds are shown as text boxes. -/
def control (f : Field) : Numbered Element :=
  match f.control.word with
  | "checkbox" => checkBox f
  | "multilinetextbox" => multilineTextBox f
  | "multiparttextbox" => multipartTextBox f
  | "statictext" => staticText f
  | "pushbutton" => button false f.label.plain f.mxevent.plain
  | "attachments" => attachments f
  | _ => textBox f.inputMode f

end Formwork.Page
