import Formwork.Schema.Statement

/-!
The schema script: a header of comments, the statements, and a COMMIT.
-/
namespace Formwork.Schema

/-- The time at which scripts are made where none is given. -/
def defaultTime : String := "2024-01-01T00:00:00+00:00"

/-- A line between parts of the script. -/
def banner : String :=
  "-- " ++ String.ofList (List.replicate 45 '=')

def opening (record time : String) : List String :=
  [banner,
    "-- Maximo Database Configuration SQL",
    "-- Generated for MBO: " ++ record,
    "-- Generated at: " ++ time,
    banner,
    "--",
    "-- Instructions:",
    "-- 1. Execute this SQL to insert field definitions into MAXATTRIBUTECFG",
    "-- 2. Login to Maximo and run \"Database Configuration\" application",
    "-- 3. Click \"Apply Configuration Changes\" to create actual database columns",
    banner,
    ""]

def statementsOpening : List String :=
  [banner,
    "-- MAXATTRIBUTECFG INSERT statements",
    "-- Add custom fields to configuration table",
    banner,
    ""]

def statementLines (t : Statement) : List String :=
  (if t.persistent then []
    else ["-- metadata only: " ++ t.binding ++ " has no storage column"]) ++ [t.sql, ""]

/-- The COMMIT and the comments at the end. -/
def closing : List String :=
  [banner,
    "-- COMMIT",
    banner,
    "COMMIT;",
    "",
    banner,
    "-- Next: Run Maximo Database Configuration",
    "-- System Administration > Configuration > Database Configuration",
    "-- Select object and click \"Apply Configuration Changes\"",
    banner]

def render (record time : String) (statements : List Statement) : String :=
  let body :=
    if statements.isEmpty then [] else statementsOpening ++ statements.flatMap statementLines
  let time := if time == "" then defaultTime else time
  String.intercalate "\n" (opening record time ++ body ++ closing) ++ "\n"

/-- A schema script with what it was made of. -/
structure Script where
  content : String
  statements : List Statement
  /-- The names of the rows that have no known object. -/
  skipped : List Value
  deriving Repr, BEq, Inhabited

/-- The script of statements and of the names that go with them. -/
def Script.of (m : Metadata) (time : String) (staged : List Statement × List Value) : Script :=
  let (statements, skipped) := staged
  { content := render m.recordName.plain time statements, statements, skipped }

/-- The script for rows, whatever their numbers. -/
def scriptOf (s : Settings) (m : Metadata) (time : String) (rows : List Row) : Script :=
  .of m time (statements s m rows)

/-- The script for rows that need not be sound. -/
def write (s : Settings) (m : Metadata) (time : String) (rows : List Row) : Except Error Script :=
  (stage s m rows).map (.of m time)

/-- The script for rows. Blocking problems are refused. -/
def generate (s : Settings) (m : Metadata) (time : String) (rows : List Row) :
    Except Error Script := do
  Row.requireSound (some m) rows
  write s m time rows

end Formwork.Schema
