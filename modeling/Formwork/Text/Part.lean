/-!
Parts of texts: whether one text occurs in another, and writing one part for another.
-/
namespace Formwork.Text

/-- Whether `part` occurs in a text. -/
def occursIn (part : List Char) : List Char → Bool
  | [] => part.isEmpty
  | c :: cs => part.isPrefixOf (c :: cs) || occursIn part cs

def hasPart (s part : String) : Bool :=
  occursIn part.toList s.toList

/-- Whether a text begins with another. -/
def beginsWith (s start : String) : Bool :=
  start.toList.isPrefixOf s.toList

/-- Whether a text ends with another. -/
def finishesWith (s finish : String) : Bool :=
  finish.toList.isSuffixOf s.toList

/-- The text with a character written as another text wherever it occurs. -/
def replaceChar (c : Char) (by_ : String) (s : String) : String :=
  String.ofList (s.toList.flatMap (fun d => if d == c then by_.toList else [d]))

end Formwork.Text
