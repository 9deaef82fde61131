import Formwork.Form.Basic
import Formwork.Trigger.Event
import Formwork.Trigger.Rule

/-!
The analysis of the triggers of a form. Triggers are numbered in one sequence, those of the form
first and then those of each block. There is no analysis where a program has a reference of more
digits than are read.
-/
namespace Formwork.Trigger

inductive Level where
  | form
  | block
  deriving Repr, DecidableEq, Inhabited

def Level.word : Level → String
  | .form => "Form"
  | .block => "Block"

/-- What is known of a trigger. -/
structure Analysis where
  number : Nat
  name : String
  /-- What the event means. -/
  event : Event
  level : Level
  /-- Its block, if it stands at one. -/
  block : String
  body : String
  statements : List Statement
  rules : List Rule
  summary : String
  deriving Repr, BEq, Inhabited

/-- The triggers of a form: its own, and those of its blocks. -/
structure Section where
  form : List Analysis
  /-- The triggers of each block that has some. -/
  blocks : List (String × List Analysis)
  deriving Repr, BEq, Inhabited

/-- The program of a trigger, character references in it decoded. -/
def bodyOf (t : Form.Trigger) : Except Error String :=
  Text.unescape t.body

def analyze (level : Level) (block : String) (number : Nat) (t : Form.Trigger) :
    Except Error Analysis := do
  let body ← bodyOf t
  .ok {
    number
    name := t.name
    event := eventOf t.name
    level
    block
    body
    statements := statements body
    rules := rules body t.name
    summary := summary body t.name }

/-- The analyses of triggers that stand together, numbered from `first`. -/
def analyzeFrom (level : Level) (block : String) (first : Nat) (triggers : List Form.Trigger) :
    Except Error (List Analysis) :=
  triggers.zipIdx.mapM (fun (t, i) => analyze level block (first + i) t)

/-- The analyses of the triggers of blocks, numbered from `first`. -/
def analyzeBlocks (first : Nat) : List Form.Block → Except Error (List (String × List Analysis))
  | [] => .ok []
  | b :: rest => do
    if b.triggers.isEmpty then analyzeBlocks first rest
    else
      let own ← analyzeFrom .block b.name first b.triggers
      let others ← analyzeBlocks (first + b.triggers.length) rest
      .ok ((b.name, own) :: others)

namespace Section

/-- The analysis of all triggers of a form. -/
def ofModule (m : Form.Module) : Except Error Section := do
  let form ← analyzeFrom .form "" 1 m.triggers
  let blocks ← analyzeBlocks (1 + m.triggers.length) m.blocks
  .ok { form, blocks }

/-- All triggers in the order of their numbers. -/
def all (s : Section) : List Analysis :=
  s.form ++ s.blocks.flatMap (·.2)

/-- How many triggers there are. -/
def count (s : Section) : Nat :=
  s.all.length

/-- How many triggers blocks have. -/
def blockCount (s : Section) : Nat :=
  s.count - s.form.length

/-- How many triggers each event has, by first occurrence. -/
def countByEvent (s : Section) : List (String × Nat) :=
  (classes (·.name) s.all).map (fun (name, members) => (name, members.length))

end Section

end Formwork.Trigger
