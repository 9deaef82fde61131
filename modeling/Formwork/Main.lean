import Formwork.Command.Run

/-!
The command line. The files that a task reads are taken from the disk, the task is run on them, and
what it printed, reported and wrote is passed on.
-/
namespace Formwork

/-- The folder with the files that can be read, under the names given. -/
def snapshot (names : List String) : IO Folder :=
  names.foldlM (fun folder name => do
    let here := Path.ofText name
    let place ← IO.FS.realPath name
    if ← place.isDir then
      return { folder with made := here :: folder.made }
    try
      let bytes ← IO.FS.readBinFile place
      return { folder with files := (here, bytes.toList) :: folder.files }
    catch _ => return folder) {}

/-- Write a file to the disk, and make the folder that it stands in. -/
def store (p : Path) (content : String) : IO Unit := do
  IO.FS.createDirAll (Path.text p.dropLast)
  IO.FS.writeFile p.text content

/-- The way to call the program. -/
def usage : String :=
  "usage: formwork [--config FILE] [--verbose] (extract-spec | convert | generate | er) ...\n"

/-- Pass on what a task has done. -/
def settle (outcome : Command.Outcome) : IO UInt32 := do
  let c := outcome.console
  for (p, content) in c.written do
    store p content
  (← IO.getStdout).putStr c.printed
  (← IO.getStderr).putStr c.reported
  match outcome.stopped with
  | none => return 0
  | some .reported => return 1
  | some (.failed e) =>
    (← IO.getStderr).putStr (e.message ++ "\n")
    return 1

end Formwork

open Formwork in
/-- Run the program on its arguments. -/
def main (args : List String) : IO UInt32 := do
  match Command.Program.main.read args with
  | .error .help =>
    (← IO.getStdout).putStr usage
    return 0
  | .error .usage =>
    (← IO.getStderr).putStr usage
    return 2
  | .ok .idle =>
    (← IO.getStdout).putStr usage
    return 1
  | .ok (.task settings task) =>
    let own ← IO.getEnv "FORMWORK_CONFIG"
    let folder ← snapshot (task.sources ++ settings.toList ++ own.toList)
    settle (Command.run { folder, settings := own } settings task)
