import Formwork.Row.Name
import Formwork.Row.Problem

/-!
Checks of rows before anything is generated from them.
-/
namespace Formwork.Row

def isKnownArea : Area → Bool
  | .other _ => false
  | _ => true

/-- The problems of a row, none when it is sound. -/
def problems (r : Row) : List RowProblem :=
  (if r.label.truthy then [] else [.noLabel]) ++
  (if hasChinese r.label.words && !r.fieldName.truthy then [.noName] else []) ++
  (if r.area.word == "" then [.noArea]
    else if isKnownArea r.area then [] else [.unknownArea r.area.word]) ++
  (if r.area == .detail && !r.relationship.truthy then [.noRelationship] else []) ++
  (if r.maxType == .decimal && r.scale < 0 then [.negativeScale] else []) ++
  (if r.length < 0 then [.negativeLength] else [])

/-- The rows that have problems, by their places. -/
def allProblems (rows : List Row) : List (Nat × List RowProblem) :=
  (rows.zipIdx.map (fun (r, i) => (i, r.problems))).filter (fun (_, problems) => !problems.isEmpty)

/-- Whether the row is bound to stored data; buttons, plain texts and attachments are not. -/
def isData (r : Row) : Bool :=
  !(r.control.word == "pushbutton" || r.control.word == "statictext" ||
    r.control.word == "attachments")

end Formwork.Row
