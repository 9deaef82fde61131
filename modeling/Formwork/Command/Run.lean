import Formwork.Artifact.Description
import Formwork.Artifact.Record
import Formwork.Command.Basic
import Formwork.Diagram.Record
import Formwork.Ingest
import Formwork.Json.Printer
import Formwork.Row.File
import Formwork.Settings.File
import Formwork.Spec.Record
import Formwork.Yaml.Writer

/-!
Running programs. A program sees a folder and the place of the settings in its environment. It
prints lines, reports problems, and writes files into the folder; it ends well, or with a problem
that it reports, or with a failure that it does not foresee.
-/
namespace Formwork.Command

/-- What a program sees. -/
structure World where
  folder : Folder := {}
  /-- The place of the settings, if the environment gives one. -/
  settings : Option String := none

/-- What a program has done. -/
structure Console where
  printed : String := ""
  reported : String := ""
  folder : Folder := {}
  /-- The files that were written, in order. -/
  written : List (Path × String) := []
  deriving Inhabited

/-- A reason for which a program stops early. -/
inductive End where
  /-- A problem that has been reported. -/
  | reported
  /-- A failure that is not foreseen. -/
  | failed (e : Error)
  deriving Repr, BEq

abbrev Work := ExceptT End (StateM Console)

def print (line : String) : Work Unit :=
  modify (fun c => { c with printed := c.printed ++ line ++ "\n" })

def report (line : String) : Work Unit :=
  modify (fun c => { c with reported := c.reported ++ line ++ "\n" })

/-- Report a problem and stop. -/
def refuse {α : Type} (problem : String) : Work α := do
  report ("[ERROR] " ++ problem)
  throw .reported

/-- The value of a computation, whose failure is not foreseen. -/
def use {α : Type} (result : Except Error α) : Work α :=
  match result with
  | .ok a => pure a
  | .error e => throw (.failed e)

/-- The path of a file, which must be there. -/
def present (file : String) : Work Path := do
  let p := Path.ofText file
  if (← get).folder.has p then pure p else refuse ("File does not exist: " ++ p.text)

def readForm (file : String) : Work String := do
  let p ← present file
  use ((← get).folder.lenientText p)

/-- Write a file into a folder, which is made when it is missing. -/
def write (folder name content : String) : Work Unit := do
  let inside := Path.ofText folder
  let made ← use ((← get).folder.make inside)
  modify (fun c => { c with folder := made })
  let p := inside ++ Path.ofText name
  let changed ← use (made.write p content)
  modify (fun c => { c with folder := changed, written := c.written ++ [(p, content)] })

/-- The text padded with blanks behind it. -/
def padRight (width : Nat) (s : String) : String :=
  s ++ String.ofList (List.replicate (width - s.length) ' ')

/-- The text padded with blanks before it. -/
def padLeft (width : Nat) (s : String) : String :=
  String.ofList (List.replicate (width - s.length) ' ') ++ s

/-- A text, or a dash for the empty one. -/
def orDash (s : String) : String :=
  if s == "" then "-" else s

/-- A name for a file, with a default for the empty one. -/
def fileName (name ending : String) : String :=
  (if name == "" then "form" else name) ++ ending

def specLines (s : Spec.FormSpec) : List String :=
  [s!"Form: {s.name}  {s.title}"] ++
  s.blocks.map (fun b =>
    s!"  Block {padRight 24 b.name} table={padRight 20 (orDash b.baseTable)} " ++
      s!"fields={b.fields.length}") ++
  [s!"  LOVs: {s.lovs.length}  Record groups: {s.recordGroups.length}  " ++
    s!"Buttons: {s.buttons.length}  Triggers: {s.triggers.count}"]

/-- Write a result to a file in the folder of the target, or print it. -/
def deliver (target : Target) (name content : String) : Work Unit :=
  match target.folder with
  | some folder => write folder name content
  | none => print content

/-- Write the specification of a form. -/
def specify (s : Settings) (file : String) (format : Format) (target : Target) : Work Unit := do
  let r ← use (Ingest.ofText s false (← readForm file))
  match if target.json then .json else format with
  | .markdown => deliver target (fileName r.spec.name "_spec.md") r.markdown
  | .json => deliver target (fileName r.spec.name "_spec.json") r.spec.json
  | .console => (specLines r.spec).forM print

/-- Make rows from a form. -/
def convert (s : Settings) (file : String) (target : Target) : Work Unit := do
  let r ← use (Ingest.ofText s false (← readForm file))
  let rows : Value := .list (r.rows.map (fun row => .ofPairs row.toPairs))
  if target.json then
    deliver target (fileName r.form.name "_fields.json") (Json.writeIndented rows)
  else
    deliver target (fileName r.form.name "_fields.yaml")
      (Yaml.writeMapping [(.text "fields", rows)])

/-- The description of the application, with the record and the id that the arguments give. -/
def describe (description record id : Option String) : Work Description := do
  let d ← match description with
    | some file => do
      match Description.load (← get).folder file with
      | .error (.descriptionShape path) => refuse (Error.descriptionShape path).message
      | result => use result
    | none => pure {}
  let m := d.metadata
  pure { d with metadata := { m with
    recordName := record.elim m.recordName .text
    id := id.elim m.id .text } }

/-- Report every blocking problem and stop; other failures are not foreseen. -/
def useSound {α : Type} (result : Except Error α) : Work α :=
  match result with
  | .error (.blocked problems) => do
    problems.forM (fun p => report ("[ERROR] " ++ p.message))
    throw .reported
  | result => use result

/-- Write the artifacts of an application to a folder. -/
def writeBundle (folder : String) (m : Metadata) (b : Bundle) : Work Unit := do
  let record := m.recordName.toText
  let base := (m.id.orElse m.recordName).toText
  write folder (base ++ ".xml") b.page
  write folder (record ++ "_attributecfg.sql") b.schema.content
  write folder b.resource.filename b.resource.content

/-- Report the attributes of a page that are not staged. -/
def reportCoverage (r : Coverage.Report) : Work Unit := do
  report s!"Coverage: {r.expected.length} expected, {r.missing.length} missing"
  r.missing.forM (fun name => report ("  [WARN] no schema definition for " ++ name))

/-- Make the artifacts of an application. -/
def generate (s : Settings) (file : String) (description record id : Option String)
    (target : Target) : Work Unit := do
  let p ← present file
  let d ← describe description record id
  let rows ← use (Row.load (← get).folder p)
  let b ← useSound (do (← d.inputs rows).generate s)
  match target.folder with
  | some folder => writeBundle folder d.metadata b
  | none => pure ()
  if target.json then print (Json.writeIndented b.toValue)
  else do
    if target.folder.isNone then print b.page
    reportCoverage b.coverage

/-- The line on a placed entity in a diagram. -/
def placeLine (n : Diagram.Node Double) : String :=
  s!"%% {n.id}: ({n.x.toFixed 0}, {n.y.toFixed 0}) {n.width.toFixed 0}x{n.height.toFixed 0}"

def draw (s : Settings) (file : String) (external placed : Bool) (target : Target) : Work Unit := do
  let r ← use (Ingest.ofText s external (← readForm file))
  let d := r.diagram
  let layout ← if placed then do pure (some (← use (d.layout s))) else pure none
  let name := d.formName
  if target.json then
    let body : List (String × Value) := ("diagram", d.toValue) ::
      (layout.map (fun l => ("layout", l.toValue))).toList
    deliver target (fileName name "_er.json") (Json.writeIndented (.ofPairs body))
  else do
    deliver target (fileName name "_er.mmd") r.mermaid
    if target.folder.isNone then (layout.elim [] (·.nodes)).forM (fun n => print (placeLine n))

/-- The settings that a program without a switch for them uses. -/
def ownSettings (w : World) : Work Settings := do
  use (Settings.load (← get).folder [w.settings])

def RowSource.metadata (source : RowSource) : Metadata :=
  { recordName := .text source.record, isStandard := !source.isNew }

/-- Print a script for rows. Problems of the rows come before those of the settings, which are only
read where the script needs them. -/
def printScript (w : World) (source : RowSource) (needs : Metadata → List Row → Bool)
    (script : Settings → Metadata → List Row → Except Error String) : Work Unit := do
  let p ← present source.file
  let rows ← use (Row.load (← get).folder p)
  let m := source.metadata
  match Row.requireSound (some m) rows with
  | .error e => refuse e.message
  | .ok _ => do
    let s ← if needs m rows then ownSettings w else pure .builtin
    print (← use (script s m rows))

def formOf (w : World) (file : String) : Work (Settings × Form.Module) := do
  let text ← readForm file
  let s ← ownSettings w
  pure (s, ← use (Form.Module.read s text))

def formLines (m : Form.Module) : List String :=
  [s!"Module: {m.name} ({orDash m.title})"] ++
  m.blocks.map (fun b =>
    let kind := if b.singleRecord == some true then "single" else "multi"
    s!"  Block {b.name} [{kind}] -> {orDash b.source}: {b.items.length} items") ++
  [s!"  LOVs: {m.lovs.length}  Record groups: {m.recordGroups.length}  " ++
    s!"Buttons: {m.buttons.length}  Tab pages: {m.tabPages.length}"]

/-- Print what a form consists of. -/
def summarize (w : World) (file : String) (json : Bool) : Work Unit := do
  let (_, m) ← formOf w file
  if json then print (Json.writeIndented (m.toValue false)) else (formLines m).forM print

def layoutLines (l : Diagram.Layout Double) : List String :=
  l.nodes.map (fun n =>
    s!"  {padRight 30 n.id} x={padLeft 7 (n.x.toFixed 1)} y={padLeft 7 (n.y.toFixed 1)} " ++
      s!"{n.width.toFixed 0}x{n.height.toFixed 0}") ++
  [s!"  Edges: {l.edges.length}  Skipped: {l.skipped.length}"]

/-- Print where the entities of a form are placed. -/
def place (w : World) (file : String) (external json : Bool) : Work Unit := do
  let (s, m) ← formOf w file
  let spec ← use (Spec.FormSpec.ofModule s m)
  let l ← use ((Diagram.ofSpec spec external).layout s)
  if json then print (Json.writeIndented l.toValue) else (layoutLines l).forM print

/-- Stop at faulty settings. What a YAML reader finds amiss may follow on the line. -/
def refuseSettings {α : Type} (e : Error) : Work α :=
  match e with
  | .settingsSyntax _ => do
    modify (fun c => { c with reported := c.reported ++ "[ERROR] " ++ e.message })
    throw .reported
  | .settingsShape .. => refuse e.message
  | .sectionShape _ => refuse e.message
  | e => throw (.failed e)

def mainSettings (w : World) (settings : Option String) : Work Settings := do
  match Settings.load (← get).folder [settings, w.settings] with
  | .ok s => pure s
  | .error e => refuseSettings e

def perform (w : World) (settings : Option String) : Task → Work Unit
  | .specify file format target => do specify (← mainSettings w settings) file format target
  | .convert file target => do convert (← mainSettings w settings) file target
  | .generate rows description record id target => do
    generate (← mainSettings w settings) rows description record id target
  | .draw file external placed target => do
    draw (← mainSettings w settings) file external placed target
  | .schemaScript source =>
    printScript w source (fun m rows => rows.any (Row.needsMark m)) (fun s m rows => do
      .ok (← Schema.generate s m "" rows).content)
  | .resourceScript source author scriptname =>
    printScript w source (fun _ _ => true) (fun s m rows => do
      .ok (← Resource.generate s m "" "" { author, scriptname } rows).content)
  | .summarize file json => summarize w file json
  | .place file external json => place w file external json

structure Outcome where
  /-- Why it stopped early, if it did. -/
  stopped : Option End
  console : Console

def run (w : World) (settings : Option String) (task : Task) : Outcome :=
  let (result, console) := (perform w settings task).run.run { folder := w.folder }
  match result with
  | .ok _ => { stopped := none, console }
  | .error stopped => { stopped := some stopped, console }

end Formwork.Command
