import Formwork.Text.Run

/-!
White space. A blank is any character with the Unicode property White_Space, or one of the four
information separators U+001C to U+001F. Trimming removes blanks at both ends and nothing else.
-/
namespace Formwork.Text

/-- White space, the information separators U+001C to U+001F included. -/
def isBlank (c : Char) : Bool :=
  let n := c.toNat
  (9 ≤ n && n ≤ 13) || (28 ≤ n && n ≤ 32) || n == 0x85 || n == 0xa0 || n == 0x1680 ||
    (0x2000 ≤ n && n ≤ 0x200a) || n == 0x2028 || n == 0x2029 || n == 0x202f || n == 0x205f ||
    n == 0x3000

/-- Remove the characters of a class from both ends. -/
def stripWhere (p : Char → Bool) (cs : List Char) : List Char :=
  ((cs.dropWhile p).reverse.dropWhile p).reverse

/-- The text without blanks at either end. -/
def trim (s : String) : String :=
  String.ofList (stripWhere isBlank s.toList)

/-- Whether the text has no character besides blanks. -/
def isBlankText (s : String) : Bool :=
  s.toList.all isBlank

/-- Write `mark` for every run of blanks. -/
def joinBlanks (mark : Char) (cs : List Char) : List Char :=
  joinRuns isBlank mark cs

end Formwork.Text
