import Formwork.Command.Argument

/-!
Commands. The main program reads a form or rows and makes what the command asks for; four smaller
programs each do one of these things with the settings of the environment.
-/
namespace Formwork.Command

inductive Program where
  /-- The main program, which takes a command. -/
  | main
  | schemaScript
  | resourceScript
  | formReader
  /-- The program that lays out the diagram of a form. -/
  | layout
  deriving Repr, DecidableEq

/-- The form of a specification. -/
inductive Format where
  | markdown
  | json
  | console
  deriving Repr, DecidableEq

/-- Where the result goes and in what form. -/
structure Target where
  json : Bool := false
  folder : Option String := none
  deriving Repr, BEq

/-- Rows, and the record that they are for. -/
structure RowSource where
  file : String
  record : String
  isNew : Bool
  deriving Repr, BEq

/-- What a program is to do. -/
inductive Task where
  /-- Write the specification of a form. -/
  | specify (file : String) (format : Format) (target : Target)
  /-- Make rows from a form. -/
  | convert (file : String) (target : Target)
  /-- Make the artifacts of an application. -/
  | generate (rows : String) (description record id : Option String) (target : Target)
  | draw (file : String) (external placed : Bool) (target : Target)
  | schemaScript (source : RowSource)
  | resourceScript (source : RowSource) (author scriptname : String)
  /-- Print what a form consists of. -/
  | summarize (file : String) (json : Bool)
  /-- Print where the entities of a form are placed. -/
  | place (file : String) (external json : Bool)
  deriving Repr, BEq

def Task.sources : Task → List String
  | .specify file _ _ => [file]
  | .convert file _ => [file]
  | .generate rows description _ _ _ => rows :: description.toList
  | .draw file _ _ _ => [file]
  | .schemaScript source => [source.file]
  | .resourceScript source _ _ => [source.file]
  | .summarize file _ => [file]
  | .place file _ _ => [file]

/-- What the arguments ask for. -/
inductive Invocation where
  /-- A task, with the file of the settings if it is given. -/
  | task (settings : Option String) (task : Task)
  /-- Nothing: there is no command. -/
  | idle
  deriving Repr, BEq

/-- A switch that takes nothing. -/
def flag (name : String) : Switch :=
  { name, takes := .nothing }

def targetSwitches : List Switch :=
  [flag "--json", { name := "--output-dir" }]

/-- Where the result goes. -/
def targetOf (r : Reading) : Target :=
  { json := r.has "--json", folder := r.text? "--output-dir" }

def mainGrammar : Grammar :=
  { switches := [{ name := "--config" }, flag "--verbose"], operand := .command }

/-- The words for the form of a specification. -/
def formats : List (String × Format) :=
  [("markdown", .markdown), ("json", .json), ("console", .console)]

def readSpecify (args : List String) : Except Stop (Reading × Task) := do
  let format : Switch := { name := "--format", takes := .oneOf (formats.map (·.1)) }
  let r ← Grammar.readAll { switches := format :: targetSwitches, operand := .file } args
  let word := (r.value? "--format").getD "markdown"
  .ok (r, .specify (r.operand.getD "") ((formats.lookup word).getD .markdown) (targetOf r))

/-- The task of making rows. -/
def readConvert (args : List String) : Except Stop (Reading × Task) := do
  let r ← Grammar.readAll { switches := targetSwitches, operand := .file } args
  .ok (r, .convert (r.operand.getD "") (targetOf r))

/-- The task of making artifacts. -/
def readGenerate (args : List String) : Except Stop (Reading × Task) := do
  let own : List Switch := [{ name := "--fields", required := true }, { name := "--metadata" },
    { name := "--mbo" }, { name := "--app-id" }]
  let r ← Grammar.readAll { switches := own ++ targetSwitches } args
  .ok (r, .generate ((r.value? "--fields").getD "") (r.text? "--metadata") (r.text? "--mbo")
    (r.text? "--app-id") (targetOf r))

def readDraw (args : List String) : Except Stop (Reading × Task) := do
  let own : List Switch := [flag "--show-external", flag "--layout"]
  let r ← Grammar.readAll { switches := own ++ targetSwitches, operand := .file } args
  .ok (r, .draw (r.operand.getD "") (r.has "--show-external") (r.has "--layout") (targetOf r))

def commands : List (String × (List String → Except Stop (Reading × Task))) :=
  [("extract-spec", readSpecify), ("convert", readConvert), ("generate", readGenerate),
    ("er", readDraw)]

def readMain (args : List String) : Except Stop Invocation := do
  let r ← mainGrammar.readAll args
  match r.operand with
  | none => if r.stray then .error .usage else .ok .idle
  | some name =>
    match commands.lookup name with
    | none => .error .usage
    | some readCommand =>
      let (inner, task) ← readCommand r.rest
      if r.stray || inner.stray then .error .usage else .ok (.task (r.text? "--config") task)

/-- The switches for rows and the record that they are for. -/
def sourceSwitches : List Switch :=
  [{ name := "--fields", required := true }, { name := "--mbo", required := true },
    flag "--new-object"]

/-- Rows and the record that they are for. -/
def sourceOf (r : Reading) : RowSource :=
  { file := (r.value? "--fields").getD "", record := (r.value? "--mbo").getD ""
    isNew := r.has "--new-object" }

/-- Read the arguments of a program that takes only switches. -/
def readSwitches (switches : List Switch) (args : List String) : Except Stop Reading := do
  let r ← Grammar.readAll { switches := switches ++ [flag "--verbose"] } args
  if r.stray then .error .usage else .ok r

/-- The file of a program that reads a form. -/
def fileSwitch : Switch := { name := "--file", required := true }

/-- What the arguments of a program ask for. -/
def Program.read (p : Program) (args : List String) : Except Stop Invocation :=
  match p with
  | .main => readMain args
  | .schemaScript => do
    let r ← readSwitches sourceSwitches args
    .ok (.task none (.schemaScript (sourceOf r)))
  | .resourceScript => do
    let r ← readSwitches (sourceSwitches ++ [{ name := "--author" }, { name := "--scriptname" }])
      args
    .ok (.task none (.resourceScript (sourceOf r) ((r.value? "--author").getD "")
      ((r.value? "--scriptname").getD "")))
  | .formReader => do
    let r ← readSwitches [fileSwitch, flag "--json"] args
    .ok (.task none (.summarize ((r.value? "--file").getD "") (r.has "--json")))
  | .layout => do
    let r ← readSwitches [fileSwitch, flag "--show-external", flag "--json"] args
    .ok (.task none (.place ((r.value? "--file").getD "") (r.has "--show-external")
      (r.has "--json")))

end Formwork.Command
