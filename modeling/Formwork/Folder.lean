import Formwork.Error
import Formwork.Text.Utf8

/-!
Folders. A folder holds files under paths, and knows of the folders inside it that hold files or
were made. Reading a file gives its text with plain line ends; a strict reading refuses bytes that
are no UTF-8.
-/
namespace Formwork

/-- The parts of a path, from the outside inwards. A path from the root begins with `/`. -/
abbrev Path := List String

namespace Path

/-- The parts of a text between slashes; empty parts and single dots say nothing. -/
def ofText (s : String) : Path :=
  let parts := (s.splitOn "/").filter (fun part => part != "" && part != ".")
  if s.startsWith "/" then "/" :: parts else parts

def text : Path → String
  | [] => "."
  | "/" :: parts => "/" ++ String.intercalate "/" parts
  | parts => String.intercalate "/" parts

/-- The last part of a path. -/
def name (p : Path) : String :=
  p.getLast?.getD ""

/-- The ending of the last part of a path, from its last dot on. A dot at either end of the part
begins no ending. -/
def ending (p : Path) : String :=
  let cs := p.name.toList
  let after := (cs.reverse.takeWhile (· != '.')).reverse
  if after.isEmpty || cs.length ≤ after.length + 1 then "" else "." ++ String.ofList after

end Path

/-- What stands at a path. -/
inductive Found where
  | nothing
  /-- Nothing, as the path leads through a file. -/
  | behindFile
  | folder
  | file (bytes : List UInt8)

structure Folder where
  /-- The files inside, the newest first. -/
  files : List (Path × List UInt8) := []
  /-- The folders that were made inside. -/
  made : List Path := []

namespace Folder

/-- Whether a path is that of a folder. -/
def holds (f : Folder) (p : Path) : Bool :=
  p.isEmpty || f.made.any (p.isPrefixOf ·) ||
    f.files.any (fun (q, _) => p != q && p.isPrefixOf q)

/-- The paths that lead to a path, itself left out. -/
def above (p : Path) : List Path :=
  (List.range p.length).map p.take

/-- What stands at a path. -/
def find (f : Folder) (p : Path) : Found :=
  match f.files.lookup p with
  | some bytes => .file bytes
  | none =>
    if f.holds p then .folder
    else if (above p).any (fun q => (f.files.lookup q).isSome) then .behindFile
    else .nothing

/-- Whether something stands at a path. -/
def has (f : Folder) (p : Path) : Bool :=
  match f.find p with
  | .file _ => true
  | .folder => true
  | _ => false

def bytes (f : Folder) (p : Path) : Except Error (List UInt8) :=
  match f.find p with
  | .file bytes => .ok bytes
  | .folder => .error (.folderAt p.text)
  | .behindFile => .error (.throughFile p.text)
  | .nothing => .error (.missingFile p.text)

/-- The characters of a file, which must be UTF-8. -/
def chars (f : Folder) (p : Path) : Except Error (List Char) := do
  match Text.decodeUtf8? (← f.bytes p) with
  | some cs => .ok cs
  | none => .error .badEncoding

/-- The text of a file, which must be UTF-8. -/
def text (f : Folder) (p : Path) : Except Error String := do
  .ok (String.ofList (Text.plainLines (← f.chars p)))

/-- The text of a file, faulty bytes replaced. -/
def lenientText (f : Folder) (p : Path) : Except Error String := do
  .ok (String.ofList (Text.plainLines (Text.decodeUtf8 (← f.bytes p))))

/-- Make a folder and the folders that lead to it. -/
def make (f : Folder) (p : Path) : Except Error Folder :=
  match f.find p with
  | .file _ => .error (.fileAt p.text)
  | .behindFile => .error (.throughFile p.text)
  | _ => .ok { f with made := p :: f.made }

/-- Write a file into a folder that exists. -/
def write (f : Folder) (p : Path) (content : String) : Except Error Folder :=
  match f.find p, f.find p.dropLast with
  | .folder, _ => .error (.folderAt p.text)
  | .behindFile, _ => .error (.throughFile p.text)
  | .nothing, .nothing => .error (.missingFile p.text)
  | _, _ => .ok { f with files := (p, content.toUTF8.toList) :: f.files }

end Folder

end Formwork
