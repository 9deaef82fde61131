import Formwork.Text.Quoted

/-!
What can be wrong with a row, and what keeps a set of inputs from being generated at all.
-/
namespace Formwork

inductive RowProblem where
  | noLabel
  /-- No name can be derived from a label in Chinese. -/
  | noName
  | noArea
  /-- The area is none of the known ones. -/
  | unknownArea (area : String)
  /-- A detail row names no relationship. -/
  | noRelationship
  | negativeScale
  | negativeLength
  deriving Repr, DecidableEq

def RowProblem.message : RowProblem → String
  | .noLabel => "Label is required"
  | .noName => "Field name is required when label contains Chinese characters"
  | .noArea => "Area is required"
  | .unknownArea area =>
    "Area must be one of header, detail, list (got " ++ Text.quoted area ++ ")"
  | .noRelationship => "Relationship is required for detail fields"
  | .negativeScale => "Scale must be non-negative for DECIMAL type"
  | .negativeLength => "Length must be non-negative"

/-- A reason to generate nothing. -/
inductive Blocking where
  | noRecordName
  | noRows
  /-- The row with the given number, counted from one, has a problem. -/
  | row (number : Nat) (name : String) (problem : RowProblem)
  deriving Repr, DecidableEq

def Blocking.message : Blocking → String
  | .noRecordName => "Primary record name (mbo_name) is required"
  | .noRows => "At least one field definition is required"
  | .row number name problem =>
    "Row " ++ toString number ++ " (" ++ name ++ "): " ++ problem.message

end Formwork
