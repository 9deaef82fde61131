import Formwork.Application.Metadata
import Formwork.Application.Tree
import Formwork.Text.Match

/-!
Coverage. The page expects an attribute for every persistent custom field; the schema script stages
attributes. Coverage reads the staged attributes back from the text of the script and reports the
expected ones that are missing.
-/
namespace Formwork.Coverage

open Text.Match

/-- A string literal of SQL, the longest first; its content is handed on with doubled quotes. -/
def literalRun {α : Type} (k : List Char → Rest α) : Rest α
  | [] => k [] []
  | [c] => if c == '\x27' then k [] [c] else literalRun (fun run => k (c :: run)) [] <|> k [] [c]
  | c :: d :: cs =>
    if c == '\x27' then
      if d == '\x27' then
        literalRun (fun run => k ('\x27' :: '\x27' :: run)) cs <|> k [] (c :: d :: cs)
      else k [] (c :: d :: cs)
    else literalRun (fun run => k (c :: run)) (d :: cs) <|> k [] (c :: d :: cs)

def quotedLiteral {α : Type} (k : List Char → Rest α) : Rest α :=
  one (· == '\x27') (literalRun (fun run => one (· == '\x27') (k run)))

/-- The object and the attribute of an INSERT that stages an attribute. -/
def stagedAttribute : Rest ((List Char × List Char) × List Char) :=
  word "INSERT" <| blanks1 <| word "INTO" <| blanks1 <| word "MAXATTRIBUTECFG" <|
    wordEdge (some 'G') <| few (· != ';') fun _ => word "VALUES" <| blanks <| one (· == '(') <|
    blanks <| quotedLiteral fun objectName => blanks <| one (· == ',') <| blanks <|
    quotedLiteral fun attributeName => fun rest => some ((objectName, attributeName), rest)

/-- The content of a literal: doubled quotes are read as one. -/
def undoubled : List Char → List Char
  | [] => []
  | [c] => [c]
  | c :: d :: cs =>
    if c == '\x27' && d == '\x27' then '\x27' :: undoubled cs else c :: undoubled (d :: cs)

/-- The attributes that a script stages, each once. -/
def stagedAttributes (sql : String) : List String :=
  distinct ((findAll (fun _ => stagedAttribute) sql.toList).map (fun found =>
    let (objectName, attributeName) := found.value
    Text.upper (String.ofList (undoubled objectName)) ++ "." ++
      Text.upper (String.ofList attributeName)))

/-- The attribute that the page expects for a row. -/
def expectedBinding (record : String) (r : Row) : String :=
  r.owner record ++ "." ++ Text.upper r.fieldName.words

/-- The attributes that the page of an application expects, each once, in the order of its tree. -/
def expectedAttributes (s : Settings) (m : Metadata) (a : Application) : List String :=
  distinct ((a.flatten.filter (fun f => f.persistent && f.toRow.isCustom s (some m))).map
    (fun f => expectedBinding m.recordName.words f.toRow))

/-- What a comparison of expected and staged attributes finds. -/
structure Report where
  /-- The expected attributes that are not staged. -/
  missing : List String
  staged : List String
  expected : List String
  deriving Repr, BEq, Inhabited

/-- Whether nothing is missing. -/
def Report.isValid (r : Report) : Bool :=
  r.missing.isEmpty

/-- Compare expected and staged attributes, the case of letters ignored. -/
def compare (expected staged : List String) : Report :=
  let expected := distinct (expected.map Text.upper)
  let staged := distinct (staged.map Text.upper)
  { missing := expected.filter (fun e => !staged.contains e), staged, expected }

end Formwork.Coverage
