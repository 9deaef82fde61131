/-!
Runs. A run of a text is a longest stretch of characters of one class.
-/
namespace Formwork.Text

/-- Write `mark` for every character that is not of a class. -/
def markOthers (p : Char → Bool) (mark : Char) (cs : List Char) : List Char :=
  cs.map (fun c => if p c then c else mark)

/-- Write `mark` for every run of characters of a class. -/
def joinRuns (p : Char → Bool) (mark : Char) : List Char → List Char
  | [] => []
  | c :: cs =>
    if p c then
      if cs.head?.any p then joinRuns p mark cs else mark :: joinRuns p mark cs
    else c :: joinRuns p mark cs

end Formwork.Text
