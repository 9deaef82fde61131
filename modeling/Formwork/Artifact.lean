import Formwork.Application.Grouping
import Formwork.Page.Document
import Formwork.Resource.Script
import Formwork.Schema.Coverage
import Formwork.Schema.Script

/-!
Artifacts. From the rows of an application come its page, the schema script, the resource script and
a report of the page's attributes that the schema script does not stage. Problems are looked for
before anything is made, and names are derived once, so that all artifacts agree on them.
-/
namespace Formwork

/-- What an application is made from. -/
structure ApplicationInputs where
  rows : List Row := []
  metadata : Metadata := {}
  /-- Labels of the primary detail areas by tab. -/
  mainDetailLabels : List (String × String) := []
  tables : TableEntries := []
  dialogs : List DialogTemplate := []
  /-- Configured sub-tabs, if sub-tabs are configured. -/
  subTabs : Option SubTabEntries := none
  /-- The name for the file of the resource script. -/
  moduleName : String := ""
  /-- The description of the primary record. -/
  moduleTitle : String := ""
  /-- The envelope of the resource script, as far as it is given. -/
  envelope : Resource.Envelope := {}
  idBase : String := IdSource.defaultBase
  deriving Repr, Inhabited

/-- Everything made for an application. -/
structure Bundle where
  page : String
  schema : Schema.Script
  resource : Resource.Result
  /-- The comparison of the page with the schema script. -/
  coverage : Coverage.Report
  application : Application
  deriving Repr, Inhabited

/-- Make all artifacts of an application. -/
def ApplicationInputs.generate (s : Settings) (i : ApplicationInputs) : Except Error Bundle := do
  let m := i.metadata
  Row.requireSound (some m) i.rows
  let rows := Row.resolveAll s (some m) i.rows
  let (application, ids) :=
    (Application.ofRows s (some m) i.mainDetailLabels i.subTabs rows).run { base := i.idBase }
  let measures ← Page.Measures.read s application
  let (document, _) := (Page.document s measures m i.tables i.dialogs application).run ids
  let schema ← Schema.generate s m "" rows
  let resource ← Resource.generate s m i.moduleName i.moduleTitle i.envelope rows
  .ok {
    page := Page.text document
    schema
    resource
    coverage := Coverage.compare (Coverage.expectedAttributes s m application)
      (Coverage.stagedAttributes schema.content)
    application }

end Formwork
