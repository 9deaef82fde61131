import Formwork.Diagram.Derive
import Formwork.Diagram.Mermaid
import Formwork.Form.Conversion
import Formwork.Spec.Markdown

/-!
Ingestion of forms: everything that follows from one document.
-/
namespace Formwork

/-- Everything that follows from the document of a form. -/
structure Ingest where
  form : Form.Module
  spec : Spec.FormSpec
  rows : List Row
  markdown : String
  diagram : Diagram
  mermaid : String
  deriving Repr, Inhabited

/-- Ingest the document of a form. -/
def Ingest.ofText (s : Settings) (showExternal : Bool) (text : String) : Except Error Ingest := do
  let form ← Form.Module.read s text
  let spec ← Spec.FormSpec.ofModule s form
  let conversion ← form.convert s
  let diagram := Diagram.ofSpec spec showExternal
  let mermaid := diagram.mermaid
  .ok {
    form
    spec
    rows := conversion.rows
    markdown := Spec.Markdown.document spec mermaid
    diagram
    mermaid }

end Formwork
