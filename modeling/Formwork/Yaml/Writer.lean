import Formwork.Text.Quoted
import Formwork.Value
import Formwork.Yaml.Scalar

/-!
Writing YAML in block style. Entries of a mapping follow each other at one column, the items of a
sequence begin with a dash at the column of what holds them. A text is written plainly where that
reads back as the same text, else between single quotes, and between double quotes with escapes
where single quotes cannot hold it. Lines are broken at blanks beyond column 80.
-/
namespace Formwork.Yaml

/-- The column after which a line is broken at the next blank. -/
def bestWidth : Nat := 80

/-- What has been written of a document. -/
structure Pen where
  /-- The characters, latest first. -/
  out : List Char
  column : Nat

namespace Pen

/-- Write characters on the current line. -/
def put (pen : Pen) (cs : List Char) : Pen :=
  ⟨cs.reverse ++ pen.out, pen.column + cs.length⟩

def breakLine (pen : Pen) (mark : Char) : Pen :=
  ⟨mark :: pen.out, 0⟩

/-- Write blanks up to a column. -/
def padTo (pen : Pen) (column : Nat) : Pen :=
  pen.put (List.replicate (column - pen.column) ' ')

/-- End the line and write blanks up to a column. -/
def newLine (pen : Pen) (column : Nat) : Pen :=
  (pen.breakLine '\n').padTo column

end Pen

/-- Whether the character ends a line in a written scalar. -/
def isBreak (c : Char) : Bool :=
  c == '\n' || c.toNat == 0x85 || c.toNat == 0x2028 || c.toNat == 0x2029

/-- Whether the character is a blank or ends a line, or the text has ended. -/
def isGap (c : Option Char) : Bool :=
  match c with
  | none => true
  | some c => c.toNat == 0 || c == ' ' || c == '\t' || c == '\r' || isBreak c

/-- Whether the character may be written as it is. -/
def isWritable (c : Char) : Bool :=
  let n := c.toNat
  c == '\n' || (0x20 ≤ n && n ≤ 0x7e) || n == 0x85 || (0xa0 ≤ n && n ≤ 0xfffd && n != 0xfeff) ||
    (0x10000 ≤ n && n < 0x10ffff)

/-- Whether a sign inside the text would end a plain scalar: a colon before a blank or the end, or
a number sign after a blank. -/
def hasInnerSign (before : Option Char) : List Char → Bool
  | [] => false
  | c :: rest =>
    (c == ':' && isGap rest.head?) || (c == '#' && isGap before) || hasInnerSign (some c) rest

/-- Whether the text begins like something other than a plain scalar. -/
def hasLeadingSign (cs : List Char) : Bool :=
  match cs with
  | [] => false
  | c :: rest =>
    "#,[]\x7b\x7d&*!|>\x27\x22%@\x60".toList.contains c ||
      ((c == '?' || c == ':' || c == '-') && isGap rest.head?) ||
      cs.take 3 == ['-', '-', '-'] || cs.take 3 == ['.', '.', '.']

/-- Whether a blank stands just before or just after a line end. -/
def pairs (p q : Char → Bool) : List Char → Bool
  | a :: b :: rest => (p a && q b) || pairs p q (b :: rest)
  | _ => false

/-- The ways of writing a scalar. -/
inductive Style where
  | plain
  | single
  | double
  deriving DecidableEq, Repr

/-- How a text is written. -/
def styleOf (s : String) : Style :=
  let cs := s.toList
  let isSpace (c : Char) : Bool := c == ' '
  let special := cs.any (fun c => !isWritable c) || pairs isSpace isBreak cs
  let edges := (cs.head?.any (fun c => isSpace c || isBreak c)) ||
    (cs.getLast?.any (fun c => isSpace c || isBreak c))
  let plainAllowed := !edges && !special && !pairs isBreak isSpace cs && !cs.any isBreak &&
    !hasLeadingSign cs && !(hasInnerSign none cs)
  if plainAllowed && readsAsText s then .plain
  else if special || pairs isBreak isSpace cs then .double
  else .single

/-- Split off the characters up to one that ends a chunk. -/
def chunk (p : Char → Bool) (cs : List Char) : List Char × List Char :=
  cs.span (fun c => !p c)

/-- Write a plain scalar: a single blank beyond the best width becomes a line end. -/
def writePlain (indent : Nat) (pen : Pen) (cs : List Char) : Nat → Pen
  | 0 => pen
  | fuel + 1 =>
    match cs with
    | [] => pen
    | ' ' :: _ =>
      let (blanks, rest) := chunk (· != ' ') cs
      let pen :=
        if blanks.length == 1 && pen.column > bestWidth then pen.newLine indent else pen.put blanks
      writePlain indent pen rest fuel
    | _ =>
      let (word, rest) := chunk (· == ' ') cs
      writePlain indent (pen.put word) rest fuel

/-- Write the inside of a scalar between single quotes. `start` tells that nothing was written. -/
def writeSingle (indent : Nat) (start : Bool) (pen : Pen) (cs : List Char) : Nat → Pen
  | 0 => pen
  | fuel + 1 =>
    match cs with
    | [] => pen
    | c :: after =>
      if c == ' ' then
        let (blanks, rest) := chunk (· != ' ') cs
        let pen :=
          if blanks.length == 1 && pen.column > bestWidth && !start && !rest.isEmpty then
            pen.newLine indent
          else pen.put blanks
        writeSingle indent false pen rest fuel
      else if isBreak c then
        let (breaks, rest) := chunk (fun d => !isBreak d) cs
        let pen := if c == '\n' then pen.breakLine '\n' else pen
        let pen := breaks.foldl (fun pen b => pen.breakLine b) pen
        writeSingle indent false (pen.padTo indent) rest fuel
      else if c == '\x27' then
        writeSingle indent false (pen.put ['\x27', '\x27']) after fuel
      else
        let (word, rest) := chunk (fun d => d == ' ' || isBreak d || d == '\x27') cs
        writeSingle indent false (pen.put word) rest fuel

/-- The letter after the backslash for characters that have one. -/
def escapeLetter? (c : Char) : Option Char :=
  match c.toNat with
  | 0 => some '0'
  | 7 => some 'a'
  | 8 => some 'b'
  | 9 => some 't'
  | 10 => some 'n'
  | 11 => some 'v'
  | 12 => some 'f'
  | 13 => some 'r'
  | 27 => some 'e'
  | 0x22 => some '\x22'
  | 0x5c => some '\\'
  | 0x85 => some 'N'
  | 0xa0 => some '_'
  | 0x2028 => some 'L'
  | 0x2029 => some 'P'
  | _ => none

/-- A character between double quotes as an escape. -/
def escapeOf (c : Char) : List Char :=
  match escapeLetter? c with
  | some l => ['\\', l]
  | none =>
    let upperHex (width : Nat) : List Char := (Text.hexDigits width c.toNat).map Char.toUpper
    if c.toNat ≤ 0xff then '\\' :: 'x' :: upperHex 2
    else if c.toNat ≤ 0xffff then '\\' :: 'u' :: upperHex 4
    else '\\' :: 'U' :: upperHex 8

/-- Whether the character stands for itself between double quotes. -/
def isPlainInDouble (c : Char) : Bool :=
  let n := c.toNat
  c != '\x22' && c != '\\' && n != 0x2028 && n != 0x2029 && n != 0xfeff &&
    ((0x20 ≤ n && n ≤ 0x7e) || (0xa0 ≤ n && n ≤ 0xfffd))

/-- Write the inside of a scalar between double quotes, `held` being characters not yet written.
Before a blank, or after an escape, a line that has become too long goes on in the next one; the
escape itself may reach one column further. -/
def writeDouble (indent : Nat) (first : Bool) (held : List Char) (pen : Pen) : List Char → Pen
  | [] => pen.put held
  | c :: rest =>
    let plain := isPlainInDouble c
    let pen := if plain then pen else (pen.put held).put (escapeOf c)
    let held := if plain then held else []
    let reach := if plain then pen.column + held.length else pen.column - 1
    let long := !first && rest.length ≥ 1 && (c == ' ' || held.isEmpty) && reach > bestWidth
    if long then
      let pen := (pen.put (held ++ ['\\'])).newLine indent
      let upcoming := if plain then c :: rest else rest
      let pen := if upcoming.head? == some ' ' then pen.put ['\\'] else pen
      writeDouble indent false (if plain then [c] else []) pen rest
    else writeDouble indent false (if plain then held ++ [c] else []) pen rest

/-- Write a text whose later lines are indented to a column. -/
def writeScalarText (indent : Nat) (pen : Pen) (s : String) : Pen :=
  let cs := s.toList
  match styleOf s with
  | .plain => writePlain indent pen cs (cs.length + 1)
  | .single => (writeSingle indent true (pen.put ['\x27']) cs (cs.length + 1)).put ['\x27']
  | .double => (writeDouble indent true [] (pen.put ['\x22']) cs).put ['\x22']

/-- The text of a floating point number. -/
def doubleText : Double → String
  | .nan => ".nan"
  | .infinite s => if s then "-.inf" else ".inf"
  | x =>
    let s := x.toText
    if s.contains '.' || !s.contains 'e' then s
    else String.intercalate ".0e" (s.splitOn "e")

mutual

/-- Write a value after a key or a dash; collections inside a mapping begin at `column`. -/
def writeNode (column : Nat) (afterKey : Bool) (pen : Pen) : Value → Pen
  | .null => (pen.put [' ']).put "null".toList
  | .bool b => (pen.put [' ']).put (if b then "true" else "false").toList
  | .int i => (pen.put [' ']).put (toString i).toList
  | .double x => (pen.put [' ']).put (doubleText x).toList
  | .date s => (pen.put [' ']).put s.toList
  | .text s => writeScalarText (column + 2) (pen.put [' ']) s
  | .list [] => pen.put " []".toList
  | .list items =>
    if afterKey then writeItems column true pen items
    else writeItems (column + 2) false (pen.put [' ']) items
  | .map [] => pen.put " \x7b\x7d".toList
  | .map entries =>
    if afterKey then writeEntries (column + 2) true pen entries
    else writeEntries (column + 2) false (pen.put [' ']) entries

/-- Write the items of a sequence, each on a new line unless it is the first and `fresh` is off. -/
def writeItems (column : Nat) (fresh : Bool) (pen : Pen) : List Value → Pen
  | [] => pen
  | v :: rest =>
    let pen := if fresh then pen.newLine column else pen
    writeItems column true (writeNode column false (pen.put ['-']) v) rest

/-- Write the entries of a mapping, each on a new line unless it is the first and `fresh` is off. -/
def writeEntries (column : Nat) (fresh : Bool) (pen : Pen) : List (Value × Value) → Pen
  | [] => pen
  | (k, v) :: rest =>
    let pen := if fresh then pen.newLine column else pen
    let key := match k with
      | .text s => s
      | .int i => toString i
      | _ => "null"
    let pen := (writeScalarText column pen key).put [':']
    writeEntries column true (writeNode column true pen v) rest

end

def writeMapping (entries : List (Value × Value)) : String :=
  String.ofList (((writeEntries 0 false ⟨[], 0⟩ entries).breakLine '\n').out.reverse)

end Formwork.Yaml
