import Formwork.Folder
import Formwork.Settings
import Formwork.Yaml.Reader

/-!
Settings from files. Without a file, and with one that is not there, the built-in settings hold.
-/
namespace Formwork.Settings

def ofFile (f : Folder) (p : Path) : Except Error Settings :=
  if f.has p then do
    match Yaml.read? (← f.text p) with
    | some document => builtin.overlay p.text document
    | none => .error (.settingsSyntax p.text)
  else .ok builtin

/-- The settings in the first of several places that is given; an empty text gives none. -/
def load (f : Folder) (places : List (Option String)) : Except Error Settings :=
  match (places.filterMap id).find? (· != "") with
  | some place => ofFile f (.ofText place)
  | none => .ok builtin

end Formwork.Settings
