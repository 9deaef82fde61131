import Formwork.Text.CaseTable
import Formwork.Text.Ranges

/-!
Upper and lower case of texts. Both mappings may lengthen a text: the sharp s becomes two letters
in upper case. The Greek capital sigma becomes the final form of the small letter at the end of a
word, which is where a cased letter stands before it and none after, case-ignorable characters
aside. Folded comparison against an ASCII word accepts the long s, the Kelvin sign and both
Turkish letters i beside the plain letters.
-/
namespace Formwork.Text

/-- The characters that a character becomes in upper case. -/
def upperChar (c : Char) : List Char :=
  if c.val < 0x80 then [c.toUpper]
  else match upperExpansions.find? (·.1 == c.toNat) with
    | some (_, images) => images.map Char.ofNat
    | none => [((CaseRun.image? upperRuns c.toNat).map Char.ofNat).getD c]

def upper (s : String) : String :=
  String.ofList (s.toList.flatMap upperChar)

/-- Whether a cased letter comes first once case-ignorable characters are passed over. -/
def startsCased (cs : List Char) : Bool :=
  match cs.dropWhile (inRanges caseIgnorableRanges) with
  | [] => false
  | c :: _ => inRanges casedRanges c

/-- The characters that a character other than the capital sigma becomes in lower case. -/
def lowerChar (c : Char) : List Char :=
  if c.val < 0x80 then [c.toLower]
  else if c.toNat == 0x130 then ['i', Char.ofNat 0x307]
  else [((CaseRun.image? lowerRuns c.toNat).map Char.ofNat).getD c]

/-- Lower case of a text whose earlier characters, nearest first, are `before`. -/
def lowerFrom (before : List Char) : List Char → List Char
  | [] => []
  | c :: rest =>
    let image :=
      if c.toNat == 0x3a3 then
        [if startsCased before && !startsCased rest then 'ς' else 'σ']
      else lowerChar c
    image ++ lowerFrom (c :: before) rest

def lower (s : String) : String :=
  String.ofList (lowerFrom [] s.toList)

/-- Whether a character equals an ASCII character when case is ignored. -/
def sameLetter (pattern c : Char) : Bool :=
  let p := pattern.toLower
  c.toLower == p ||
    (p == 'i' && (c.toNat == 0x130 || c.toNat == 0x131)) ||
    (p == 'k' && c.toNat == 0x212a) ||
    (p == 's' && c.toNat == 0x17f)

end Formwork.Text
