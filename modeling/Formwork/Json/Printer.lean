import Formwork.Value.Display

/-!
Writing JSON. `write` puts a document on one line, `writeIndented` puts every item and entry on a
line of its own, two blanks deeper than what holds it. Characters beyond ASCII are written as they
are.
-/
namespace Formwork.Json

/-- One character inside a text literal. -/
def escapeChar (c : Char) : List Char :=
  if c == '\x22' then ['\\', '\x22']
  else if c == '\\' then ['\\', '\\']
  else if c == '\n' then ['\\', 'n']
  else if c == '\r' then ['\\', 'r']
  else if c == '\t' then ['\\', 't']
  else if c == '\x08' then ['\\', 'b']
  else if c == '\x0c' then ['\\', 'f']
  else if c.toNat < 0x20 then '\\' :: 'u' :: Text.hexDigits 4 c.toNat
  else [c]

def writeText (s : String) : String :=
  String.ofList ('\x22' :: s.toList.flatMap escapeChar ++ ['\x22'])

/-- A floating point number. -/
def writeDouble : Double → String
  | .nan => "NaN"
  | .infinite s => if s then "-Infinity" else "Infinity"
  | x => x.toText

def keyText : Value → String
  | .null => "null"
  | .bool b => if b then "true" else "false"
  | .double x => writeDouble x
  | v => v.toText

/-- A line end followed by the blanks of a depth. -/
def lineBreak (depth : Nat) : String :=
  String.ofList ('\n' :: List.replicate (2 * depth) ' ')

mutual

/-- The document of a value, on one line when `depth` is `none`, else indented from that depth. -/
def writeAt (depth : Option Nat) : Value → String
  | .null => "null"
  | .bool b => if b then "true" else "false"
  | .int i => toString i
  | .double x => writeDouble x
  | .text s => writeText s
  | .date s => writeText s
  | .list [] => "[]"
  | .list items => enclose depth "[" "]" (writeItems (depth.map (· + 1)) items)
  | .map [] => "\x7b\x7d"
  | .map entries => enclose depth "\x7b" "\x7d" (writeEntries (depth.map (· + 1)) entries)

/-- The documents of the items of a sequence. -/
def writeItems (depth : Option Nat) : List Value → List String
  | [] => []
  | v :: rest => writeAt depth v :: writeItems depth rest

/-- The documents of the entries of a mapping. -/
def writeEntries (depth : Option Nat) : List (Value × Value) → List String
  | [] => []
  | (k, v) :: rest =>
    (writeText (keyText k) ++ (if depth.isSome then ": " else ":") ++ writeAt depth v) ::
      writeEntries depth rest

/-- Parts between brackets, separated by commas. -/
def enclose (depth : Option Nat) (opening closing : String) (parts : List String) : String :=
  match depth with
  | none => opening ++ String.intercalate "," parts ++ closing
  | some d =>
    opening ++ lineBreak (d + 1) ++ String.intercalate ("," ++ lineBreak (d + 1)) parts ++
      lineBreak d ++ closing

end

/-- The document on one line. -/
def write (v : Value) : String :=
  writeAt none v

/-- The document over several lines. -/
def writeIndented (v : Value) : String :=
  writeAt (some 0) v

end Formwork.Json
