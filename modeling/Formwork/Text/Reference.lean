import Formwork.Decimal.Numeral
import Formwork.Error
import Formwork.Text.ReferenceNames
import Std.Data.HashMap

/-!
Character references. A reference is an ampersand followed by a number sign and a number in base
ten or sixteen, or by a name; decoding writes the characters it stands for. The five names of XML
need their semicolon here only as far as HTML asks for it: some names are also read without one,
and then the longest such name at the start of the word counts. A number in base ten of more digits
than are read makes the decoding fail.
-/
namespace Formwork.Text

/-- The references that markup writers use for their own delimiters. -/
def markupReferences : List (List Char × List Char) :=
  [("amp;".toList, ['&']), ("lt;".toList, ['<']), ("gt;".toList, ['>']), ("quot;".toList, ['\x22'])]

/-- The number that digits in base sixteen spell. -/
def hexValue (cs : List Char) : Nat :=
  cs.foldl (fun n c =>
    16 * n + (if c.isDigit then c.toNat - 48 else (c.toLower.toNat - 87))) 0

/-- Every reference name, its closing semicolon included where there is one. -/
def namedReferences : Std.HashMap String (List Char) :=
  let entries := referenceNameTable.toList.flatMap (·.splitOn ";")
  let closed := entries.foldl (fun m entry =>
    match entry.splitOn " " with
    | [name, codes] =>
      m.insert (name ++ ";")
        ((codes.splitOn "+").map (fun code => Char.ofNat (hexValue code.toList)))
    | _ => m) (∅ : Std.HashMap String (List Char))
  (unclosedNameTable.toList.flatMap (·.splitOn " ")).foldl (fun m name =>
    match m[name ++ ";"]? with
    | some value => m.insert name value
    | none => m) closed

/-- What a reference name stands for. -/
def namedReference? (name : List Char) : Option (List Char) :=
  match markupReferences.lookup name with
  | some value => some value
  | none => namedReferences[String.ofList name]?

/-- The characters that numbers 128 to 159 stand for, as in the code page Windows-1252. -/
def highControls : List Nat :=
  [0x20ac, 0x81, 0x201a, 0x192, 0x201e, 0x2026, 0x2020, 0x2021, 0x2c6, 0x2030, 0x160, 0x2039,
   0x152, 0x8d, 0x17d, 0x8f, 0x90, 0x2018, 0x2019, 0x201c, 0x201d, 0x2022, 0x2013, 0x2014, 0x2dc,
   0x2122, 0x161, 0x203a, 0x153, 0x9d, 0x17e, 0x178]

/-- Code points that are no characters of a document: most controls and the noncharacters. -/
def isNoncharacter (n : Nat) : Bool :=
  (1 ≤ n && n ≤ 8) || n == 11 || (14 ≤ n && n ≤ 31) || (127 ≤ n && n ≤ 159) ||
    (0xfdd0 ≤ n && n ≤ 0xfdef) || n % 0x10000 ≥ 0xfffe

/-- What a numeric reference stands for. -/
def numberedReference (n : Nat) : List Char :=
  if n == 0 then [Char.ofNat 0xfffd]
  else if n == 13 then ['\r']
  else if 128 ≤ n && n ≤ 159 then [Char.ofNat (highControls.getD (n - 128) 0xfffd)]
  else if (0xd800 ≤ n && n ≤ 0xdfff) || n > 0x10ffff then [Char.ofNat 0xfffd]
  else if isNoncharacter n then []
  else [Char.ofNat n]

/-- Split off at most `limit` leading characters of a class. -/
def spanUpTo (p : Char → Bool) : Nat → List Char → List Char × List Char
  | 0, cs => ([], cs)
  | _ + 1, [] => ([], [])
  | limit + 1, c :: cs =>
    if p c then
      let (taken, rest) := spanUpTo p limit cs
      (c :: taken, rest)
    else ([], c :: cs)

/-- Take one closing semicolon, if it is there. -/
def dropSemicolon : List Char → List Char
  | ';' :: rest => rest
  | cs => cs

/-- Characters that may stand in a reference name. -/
def isReferenceChar (c : Char) : Bool :=
  let stops := ['\t', '\n', '\x0c', ' ', '<', '&', '#', ';']
  !stops.contains c

/-- The longest proper beginning of a word, of at least two characters and at most `size`, that is
a reference name; the result is what it stands for and what is left of the word. -/
def longestName? (word : List Char) : Nat → Option (List Char × List Char)
  | 0 => none
  | 1 => none
  | size + 1 =>
    match namedReference? (word.take (size + 1)) with
    | some value => some (value, word.drop (size + 1))
    | none => longestName? word size

/-- Read a reference in base sixteen after its number sign. -/
def hexReference? (cs : List Char) : Option (List Char × List Char) :=
  match cs with
  | x :: more =>
    if x == 'x' || x == 'X' then
      let hex := more.span (fun c => c.isDigit || ('a' ≤ c.toLower && c.toLower ≤ 'f'))
      if hex.1.isEmpty then none
      else some (numberedReference (hexValue hex.1), dropSemicolon hex.2)
    else none
  | [] => none

/-- Read a reference by name after its ampersand; a word that is no name stands for itself. -/
def wordReference? (cs : List Char) : Option (List Char × List Char) :=
  let (name, rest) := spanUpTo isReferenceChar 32 cs
  if name.isEmpty then none
  else
    let word := if rest.head? == some ';' then name ++ [';'] else name
    let after := dropSemicolon rest
    match namedReference? word with
    | some value => some (value, after)
    | none =>
      match longestName? word (word.length - 1) with
      | some (value, left) => some (value ++ left, after)
      | none => some ('&' :: word, after)

/-- Read a reference after its ampersand. The result is the decoded text and the rest. A number in
base ten is only read up to the limit of digits; in base sixteen there is none. -/
def readReference (cs : List Char) : Except Error (Option (List Char × List Char)) :=
  match cs with
  | '#' :: rest =>
    let decimal := rest.span Char.isDigit
    if decimal.1.isEmpty then .ok (hexReference? rest)
    else if isOverlong decimal.1 then .error .overlong
    else .ok (some (numberedReference (digitsValue decimal.1), dropSemicolon decimal.2))
  | _ => .ok (wordReference? cs)

/-- Decode every reference of a text; an ampersand that begins none is kept. -/
def decodeReferences (cs : List Char) : Except Error (List Char) :=
  match cs with
  | [] => .ok []
  | c :: rest =>
    if c == '&' then
      match readReference rest with
      | .error e => .error e
      | .ok (some (value, after)) =>
        if after.length < (c :: rest).length then (decodeReferences after).map (value ++ ·)
        else (decodeReferences rest).map (c :: ·)
      | .ok none => (decodeReferences rest).map (c :: ·)
    else (decodeReferences rest).map (c :: ·)
termination_by cs.length
decreasing_by all_goals (simp only [List.length_cons] at *; omega)

/-- The text with its character references decoded. -/
def unescape (s : String) : Except Error String :=
  (decodeReferences s.toList).map String.ofList

end Formwork.Text
