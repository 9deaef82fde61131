import Formwork.Text.Digit
import Formwork.Text.Part

/-!
Arguments of programs. A program has switches, each with a long name, some of which take a value,
and at most one operand. A switch may be shortened to any start that fits no other, and its value
follows it or is joined to it by an equals sign. After two dashes every argument is an operand. What
the program does not know is a fault of usage, except that a call for help ends the reading where it
stands.
-/
namespace Formwork.Command

inductive Takes where
  /-- Nothing: the switch is there or not. -/
  | nothing
  | anything
  | oneOf (words : List String)
  /-- Nothing: the switch asks for help. -/
  | help
  deriving Repr, BEq

structure Switch where
  name : String
  takes : Takes := .anything
  /-- Whether it must be given. -/
  required : Bool := false
  deriving Repr, BEq

/-- What stands among the arguments of a program besides switches. -/
inductive Operand where
  | none
  | file
  /-- A command, if any, with arguments of its own. -/
  | command
  deriving Repr, DecidableEq

/-- The arguments that a program knows. -/
structure Grammar where
  switches : List Switch
  /-- What else there is. -/
  operand : Operand := .none
  deriving Repr

/-- A reason to stop before the program starts. -/
inductive Stop where
  | usage
  | help
  deriving Repr, DecidableEq

/-- The two switches that ask for help. -/
def helpSwitches : List Switch :=
  [{ name := "-h", takes := .help }, { name := "--help", takes := .help }]

/-- All switches of a program. -/
def Grammar.known (g : Grammar) : List Switch :=
  helpSwitches ++ g.switches

/-- What an argument is by itself. -/
inductive Kind where
  /-- An operand, or the value of a switch before it. -/
  | plain
  | separator
  /-- A switch, possibly with a value joined to it. -/
  | known (switch : Switch) (joined : Option String)
  /-- A switch that the program does not know. -/
  | unknown
  deriving Repr

structure Argument where
  text : String
  kind : Kind
  deriving Repr

/-- The parts of a text around its first equals sign, if it has one. -/
def splitEquals (s : String) : String × Option String :=
  let cs := s.toList
  match cs.dropWhile (· != '=') with
  | _ :: after => (String.ofList (cs.takeWhile (· != '=')), some (String.ofList after))
  | [] => (s, none)

/-- Whether a text is a number below zero. -/
def isNegativeNumber (s : String) : Bool :=
  match s.toList with
  | '-' :: body =>
    let body := if body.getLast? == some '\n' then body.dropLast else body
    let whole := body.takeWhile Text.isDecimalDigit
    match body.dropWhile Text.isDecimalDigit with
    | [] => !whole.isEmpty
    | '.' :: places => !places.isEmpty && places.all Text.isDecimalDigit
    | _ => false
  | _ => false

/-- The switches that a shortened text may mean, each with the value joined to it. -/
def Grammar.shortened (g : Grammar) (s : String) : List (Switch × Option String) :=
  if Text.beginsWith s "--" then
    let (start, joined) := splitEquals s
    (g.known.filter (fun w => Text.beginsWith w.name start)).map (·, joined)
  else
    let letter := String.ofList (s.toList.take 2)
    (g.known.filter (·.name == letter)).map (·, some (String.ofList (s.toList.drop 2)))

/-- The kind of an argument before any two dashes. A start that fits several switches is a fault. -/
def Grammar.kindOf (g : Grammar) (s : String) : Except Stop Kind :=
  if !Text.beginsWith s "-" || s == "-" then .ok .plain
  else match g.known.find? (·.name == s) with
    | some w => .ok (.known w none)
    | none =>
      let (name, joined) := splitEquals s
      match g.known.find? (fun w => joined.isSome && w.name == name) with
      | some w => .ok (.known w joined)
      | none => match g.shortened s with
        | [(w, joined)] => .ok (.known w joined)
        | _ :: _ => .error .usage
        | [] => .ok (if isNegativeNumber s || Text.hasPart s " " then .plain else .unknown)

/-- The arguments with their kinds. -/
def Grammar.sort (g : Grammar) : List String → Except Stop (List Argument)
  | [] => .ok []
  | s :: rest =>
    if s == "--" then .ok (⟨s, .separator⟩ :: rest.map (⟨·, .plain⟩))
    else do .ok (⟨s, ← g.kindOf s⟩ :: (← g.sort rest))

/-- What has been read from arguments. -/
structure Reading where
  /-- The switches with their values, the newest first. -/
  given : List (String × String) := []
  /-- The operand, or the name of a command. -/
  operand : Option String := none
  rest : List String := []
  /-- The switch whose value is awaited. -/
  awaited : Option Switch := none
  /-- Whether two dashes wait for an operand. -/
  dashed : Bool := false
  /-- Whether the operand came just before. -/
  fresh : Bool := false
  /-- Whether there was something that the program does not know. -/
  stray : Bool := false
  deriving Repr, BEq, Inhabited

namespace Reading

def value? (r : Reading) (name : String) : Option String :=
  r.given.lookup name

/-- The value of a switch when it is not empty. -/
def text? (r : Reading) (name : String) : Option String :=
  (r.value? name).filter (· != "")

/-- Whether a switch was given. -/
def has (r : Reading) (name : String) : Bool :=
  (r.value? name).isSome

def take (r : Reading) (w : Switch) (v : String) : Except Stop Reading :=
  let taken : Reading := { r with given := (w.name, v) :: r.given, awaited := none, fresh := false }
  match w.takes with
  | .oneOf words => if words.contains v then .ok taken else .error .usage
  | _ => .ok taken

/-- Take a switch that asks for help, possibly with more of the same letter. -/
def callHelp (w : Switch) (joined : Option String) : Stop :=
  match joined with
  | none => .help
  | some more =>
    if w.name == "-h" && more != "" && more.toList.all (· == 'h') then .help else .usage

/-- Take a switch with the value joined to it. -/
def takeSwitch (r : Reading) (w : Switch) (joined : Option String) : Except Stop Reading :=
  match w.takes, joined with
  | .help, joined => .error (callHelp w joined)
  | .nothing, none => r.take w ""
  | .nothing, some _ => .error .usage
  | _, some v => r.take w v
  | _, none => .ok { r with awaited := some w, fresh := false }

/-- Take two dashes. They belong to an operand just before them or just behind them. -/
def takeDashes (r : Reading) : Reading :=
  if r.fresh then { r with fresh := false } else { r with dashed := true }

/-- Take an operand; a second one is stray. -/
def takeOperand (r : Reading) (wanted : Bool) (s : String) : Reading :=
  if wanted && r.operand.isNone then { r with operand := some s, dashed := false, fresh := true }
  else { r with stray := true, fresh := false }

/-- The reading at the end of the arguments. -/
def finish (r : Reading) : Except Stop Reading :=
  if r.awaited.isSome then .error .usage else .ok { r with stray := r.stray || r.dashed }

end Reading

/-- Read arguments. With a command the reading ends, and the rest is left to it. -/
def Grammar.read (g : Grammar) (r : Reading) : List Argument → Except Stop Reading
  | [] => r.finish
  | a :: rest =>
    match r.awaited, a.kind with
    | some w, .plain => do g.read (← r.take w a.text) rest
    | some _, _ => .error .usage
    | none, .unknown => g.read { r with stray := true, fresh := false } rest
    | none, .known w joined => do g.read (← r.takeSwitch w joined) rest
    | none, .separator =>
      if g.operand == .command then .error .usage else g.read r.takeDashes rest
    | none, .plain =>
      if g.operand == .command then .ok { r with operand := some a.text, rest := rest.map (·.text) }
      else g.read (r.takeOperand (g.operand == .file) a.text) rest

/-- Read the arguments of a program or a command, in which nothing may be missing. -/
def Grammar.readAll (g : Grammar) (args : List String) : Except Stop Reading := do
  let r ← g.read {} (← g.sort args)
  if g.switches.any (fun w => w.required && !r.has w.name) then .error .usage
  else if g.operand == .file && r.operand.isNone then .error .usage
  else .ok r

end Formwork.Command
