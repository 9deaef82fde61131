import Formwork.Classes
import Formwork.Text.Match
import Formwork.Text.Part

/-!
Statements in the program text of a trigger: cursors, selections into variables, assignments of
function results, and calls of the procedures named `p_` or `sf_`. They are recognised by their
outward form, from left to right, the case of letters ignored. A program that does nothing, or only
passes a key on, has no statements.
-/
namespace Formwork.Trigger

open Text.Match

inductive StatementKind where
  /-- A selection into variables. -/
  | select
  | cursor
  | functionCall
  deriving Repr, DecidableEq, Inhabited

def StatementKind.word : StatementKind → String
  | .select => "SELECT"
  | .cursor => "CURSOR"
  | .functionCall => "FUNCTION_CALL"

/-- A statement that was recognised. -/
structure Statement where
  kind : StatementKind
  text : String
  tables : List String := []
  /-- The columns that it reads, or the item that it sets. -/
  fields : List String := []
  deriving Repr, BEq, Inhabited

variable {α : Type}

def sign (c : Char) (k : Rest α) : Rest α :=
  one (· == c) k

/-- A run of the characters of words. -/
def name (k : List Char → Rest α) : Rest α :=
  many1 Text.isWordChar k

/-- Two names with a point between them. -/
def dottedName (k : List Char → Rest α) : Rest α :=
  name fun first => sign '.' <| name fun second => k (first ++ '.' :: second)

/-- A name, possibly with a second one after a point. -/
def column (k : List Char → Rest α) : Rest α :=
  dottedName k |> fun dotted => fun cs => dotted cs <|> name k cs

/-- The end of a match: what was read, and the rest. -/
def found (a : α) : Rest (α × List Char) :=
  fun rest => some (a, rest)

/-- Whether a text as a whole has a form. -/
def isAll (m : Rest Unit → Rest Unit) (s : String) : Bool :=
  (m (atEnd fun _ => some ()) s.toList).isSome

/-- Whether a program does nothing or only passes a key on. -/
def isSimple (body : String) : Bool :=
  isAll (fun k => blanks <| word "null" <| blanks <| optional (sign ';') <| blanks k) body ||
  isAll (fun k => blanks <| word "do_key" <| blanks <| sign '(' <| many1 (· != ')') fun _ =>
    sign ')' <| blanks <| optional (sign ';') <| blanks k) body

/-- The texts between commas. -/
def parts (s : String) : List String :=
  (splitAt s.toList).map String.ofList
where
  /-- The parts of a text between commas. -/
  splitAt : List Char → List (List Char)
    | [] => [[]]
    | c :: cs =>
      let rest := splitAt cs
      if c == ',' then [] :: rest
      else match rest with
        | first :: more => (c :: first) :: more
        | [] => [[c]]

/-- The column that an entry of a column list names, possibly with another name after it. -/
def columnOf? (entry : String) : Option String :=
  let cs := entry.toList
  let renamed : Rest (List Char) :=
    column fun c => blanks1 <| optional (fun k => word "as" <| blanks1 k) <| name fun _ =>
      atEnd fun _ => some c
  let plain : Rest (List Char) := column fun c => atEnd fun _ => some c
  (renamed cs <|> plain cs).map String.ofList

/-- The columns of a column list, each once; expressions are passed over. -/
def selectedColumns (clause : String) : List String :=
  let distinctWord (before : Option Char) : Rest (Unit × List Char) :=
    wordEdge before <| word "distinct" <| wordEdge (some 't') <| found ()
  let cleaned := String.ofList (removeAll distinctWord clause.toList)
  distinct ((parts (Text.trim cleaned)).filterMap (fun entry => columnOf? (Text.trim entry)))

/-- A text of found characters without blanks at its ends. -/
def trimmed (cs : List Char) : String :=
  Text.trim (String.ofList cs)

/-- A cursor: its columns, and what follows the word `from`. -/
def cursorMatch : Rest ((List Char × List Char) × List Char) :=
  word "cursor" <| blanks1 <| name fun _ => blanks1 <| word "is" <| blanks1 <| word "select" <|
    blanks1 <| gap fun columns => blanks1 <| word "from" <| blanks1 <| gap fun tail =>
    fun cs => sign ';' (found (columns, tail)) cs <|> atEnd (found (columns, tail)) cs

/-- The names of tables after the word `from`. -/
def tablesIn (text : String) : List String :=
  let table : Rest (List Char × List Char) :=
    word "from" <| blanks1 <| name fun t => found t
  distinct ((findAll (fun _ => table) text.toList).map
    (fun m => Text.lower (String.ofList m.value)))

def cursors (body : List Char) : List Statement :=
  (findAll (fun _ => cursorMatch) body).map (fun m =>
    { kind := .cursor
      text := trimmed m.covered
      tables := tablesIn ("from " ++ trimmed m.value.2)
      fields := selectedColumns (trimmed m.value.1) })

/-- Whether a text ends with the opening of a cursor. -/
def endsInCursor (before : List Char) : Bool :=
  let opening : Rest (Unit × List Char) :=
    word "cursor" <| blanks1 <| name fun _ => blanks1 <| word "is" <| blanks <| atEnd <| found ()
  (find? (fun _ => opening) before).isSome

/-- A selection into variables: its columns and its first table. -/
def selectionMatch (before : Option Char) : Rest ((List Char × List Char) × List Char) :=
  wordEdge before <| word "select" <| blanks1 <| gap fun columns => blanks1 <| word "into" <|
    blanks1 <| gap fun _ => blanks1 <| word "from" <| blanks1 <| name fun table =>
    found (columns, table)

/-- The selections of a program that are not those of its cursors. -/
def selections (body : List Char) : List Statement :=
  ((findAll selectionMatch body).filter (fun m => !endsInCursor (body.take m.start))).map (fun m =>
    { kind := .select
      text := trimmed m.covered
      tables := [Text.lower (String.ofList m.value.2)]
      fields := selectedColumns (String.ofList m.value.1) })

/-- An assignment of the result of a function: the item, and the name of the function. -/
def assignmentMatch : Rest ((List Char × List Char) × List Char) :=
  sign ':' <| dottedName fun item => blanks <| sign ':' <| sign '=' <| blanks <|
    name fun function => blanks <| sign '(' <| found (item, function)

def builtinFunctions : List String :=
  ["null", "true", "false", "nvl", "trunc", "to_char", "to_date", "to_number"]

/-- The assignments of function results in a program. -/
def assignments (body : List Char) : List Statement :=
  ((findAll (fun _ => assignmentMatch) body).filter (fun m =>
      !builtinFunctions.contains (Text.lower (String.ofList m.value.2)))).map (fun m =>
    { kind := .functionCall
      text := trimmed m.covered
      fields := [String.ofList m.value.1] })

/-- The call of a procedure that stands alone, with the sign or blank before it. -/
def callMatch (before : Option Char) : Rest (List Char × List Char) :=
  let procedure : Rest (List Char × List Char) := fun cs =>
    (letters ['p', '_'] <| name fun _ => fun rest =>
      callEnd (cs.take (cs.length - rest.length)) rest) cs <|>
    (letters ['s', 'f', '_'] <| name fun _ => fun rest =>
      callEnd (cs.take (cs.length - rest.length)) rest) cs
  fun cs =>
    (if before.isNone then procedure cs else none) <|> sign ';' procedure cs <|>
      one Text.isBlank procedure cs
where
  /-- The arguments of a call and the sign after it. -/
  callEnd (called : List Char) : Rest (List Char × List Char) :=
    blanks <| optional (fun k => sign '(' <| many (· != ')') fun _ => sign ')' k) <| blanks <|
      sign ';' <| found called

/-- Add the calls of procedures that no earlier statement mentions. -/
def withCalls (body : List Char) (done : List Statement) : List Statement :=
  (findAll callMatch body).foldl (fun done m =>
    let called := String.ofList m.value
    if done.any (fun s => Text.hasPart s.text called) then done
    else done ++ [{
      kind := .functionCall
      text := called ++ (if m.covered.contains '(' then "(...)" else "") }]) done

/-- The statements of a program: its cursors, selections, assignments and calls. -/
def statements (body : String) : List Statement :=
  if isSimple body then []
  else
    let cs := body.toList
    withCalls cs (cursors cs ++ selections cs ++ assignments cs)

end Formwork.Trigger
