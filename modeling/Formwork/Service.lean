import Formwork.Artifact.Description
import Formwork.Artifact.Record
import Formwork.Diagram.Record
import Formwork.Ingest
import Formwork.Json.Reader
import Formwork.Row.File
import Formwork.Spec.Record

/-!
The service. A request names an endpoint and brings a JSON document; the response has a status and,
unless the request fails outright, a JSON document. Blocking problems and values of a wrong kind are
the caller's fault and are reported with their wording; anything else that goes wrong is a fault of
the service.
-/
namespace Formwork.Service

structure Request where
  method : String := "POST"
  /-- The path below that of the service. -/
  path : String
  body : String := ""
  deriving Repr, Inhabited

structure Response where
  status : Nat
  /-- The document, if there is one. -/
  body : Option Value := none
  deriving Repr, Inhabited

def refusal (message : String) (problems : List String) : Response :=
  { status := 400
    body := some (.ofPairs [
      ("error", .text message),
      ("errors", if problems.isEmpty then .texts [message] else .texts problems)]) }

/-- The refusal of a request for one reason. -/
def refuse (message : String) : Response :=
  refusal message []

def failure : Response := { status := 500 }

/-- Whether a failure is the caller's fault. -/
def isCallersFault : Error → Bool
  | .blocked _ => true
  | .settingsSyntax _ => true
  | .settingsShape .. => true
  | .sectionShape _ => true
  | .cyclic _ => true
  | .notInteger _ => true
  | .notDecimal _ => true
  | .overlong => true
  | .noColumnHeight => true
  | .wrongKind _ => true
  | .notRows _ => true
  | _ => false

/-- The document of a request; a text that is no JSON, and a value that counts as false, stand for
an empty mapping. -/
def document (body : String) : Value :=
  let v := (Json.read? (String.ofList (Row.unmarked body.toList))).getD .null
  if v.truthy then v else .map []

/-- The text of the form in a document, if there is one that is not blank. -/
def formText? (v : Value) : Option String :=
  match (v.get "content").orElse (v.get "xml") with
  | .text s => if Text.isBlankText s then none else some s
  | _ => none

def rowEntries? : Value → Option (List Value)
  | .list items => some items
  | _ => none

def isMapping : Value → Bool
  | .map _ => true
  | _ => false

def artifacts (s : Settings) (v : Value) (entries : List Value) : Except Error Bundle := do
  let description ← Description.ofParts (v.get "metadata") v
  let rows ← entries.mapM Row.ofValue
  let inputs ← description.inputs rows
  inputs.generate s

/-- Make the artifacts of an application. -/
def generate (s : Settings) (v : Value) : Response :=
  match rowEntries? (v.get "fields") with
  | none => refuse "Request body must contain a 'fields' list"
  | some entries =>
    if !entries.all isMapping then refuse "Each entry in 'fields' must be an object"
    else match artifacts s v entries with
      | .ok bundle => { status := 200, body := some bundle.toValue }
      | .error e => if isCallersFault e then refusal e.message e.problems else failure

/-- The refusal of a document without a form. -/
def noForm : Response :=
  refuse "Request body must contain the form XML in 'content'"

/-- The response of a computation that the caller cannot make fail. -/
def respond (result : Except Error Value) : Response :=
  match result with
  | .ok v => { status := 200, body := some v }
  | .error _ => failure

def readForm (s : Settings) (v : Value) : Response :=
  match formText? v with
  | none => noForm
  | some text => respond do
    let r ← Ingest.ofText s (v.get "show_external_refs").truthy text
    .ok (.ofPairs [
      ("module", r.form.toValue (v.get "include_attributes").truthy),
      ("form_spec", r.spec.toValue),
      ("fields", .list (r.rows.map (fun row => .ofPairs row.toPairs))),
      ("markdown_spec", .text r.markdown),
      ("mermaid", .text r.mermaid)])

/-- Derive the diagram of a form. -/
def diagram (s : Settings) (v : Value) : Response :=
  match formText? v with
  | none => noForm
  | some text => respond do
    let spec ← Spec.FormSpec.ofModule s (← Form.Module.read s text)
    let d := Diagram.ofSpec spec (v.get "show_external_refs").truthy
    let placed := ((v.get? "layout").getD (.bool true)).truthy
    let layout ← if placed then do .ok [("layout", (← d.layout s).toValue)] else .ok []
    .ok (.ofPairs ([("diagram", d.toValue)] ++ layout))

def endpoints : List (String × (Settings → Value → Response)) :=
  [("/generate", generate), ("/fmb/parse", readForm), ("/er", diagram)]

/-- Answer a request. A document that is no mapping makes the service fail. -/
def answer (s : Settings) (r : Request) : Response :=
  let path := String.ofList (r.path.toList.takeWhile (fun c => c != '?' && c != '#'))
  match endpoints.lookup path with
  | none => { status := 404 }
  | some handle =>
    let method := Text.upper r.method
    if method == "OPTIONS" then { status := 200 }
    else if method != "POST" then { status := 405 }
    else
      let v := document r.body
      if isMapping v then handle s v else failure

end Formwork.Service
