import Formwork.Text.Alphanumeric
import Formwork.Text.Blank
import Formwork.Text.Case
import Formwork.Text.Digit

/-!
Matching with backtracking. A matcher tries to read something at the start of a text and hands the
rest to the matcher after it, its continuation; when the continuation fails it tries its next
choice. `many` prefers long runs, `few` short ones, so the first success is the one that the
preferences of the parts, taken from left to right, select. `findAll` moves through a text and
lists the matches that do not overlap.
-/
namespace Formwork.Text.Match

variable {α : Type}

/-- What is tried on the rest of a text. -/
abbrev Rest (α : Type) := List Char → Option α

def one (p : Char → Bool) (k : Rest α) : Rest α
  | c :: cs => if p c then k cs else none
  | [] => none

/-- The given characters, the case of letters ignored. -/
def letters (word : List Char) (k : Rest α) : Rest α :=
  match word with
  | [] => k
  | w :: ws => one (sameLetter w) (letters ws k)

/-- A word, the case of its letters ignored. -/
def word (w : String) (k : Rest α) : Rest α :=
  letters w.toList k

/-- A run of characters of a class, the longest first. -/
def many (p : Char → Bool) (k : List Char → Rest α) : Rest α
  | [] => k [] []
  | c :: cs =>
    if p c then (many p (fun run => k (c :: run)) cs) <|> k [] (c :: cs)
    else k [] (c :: cs)

/-- A run of at least one character of a class, the longest first. -/
def many1 (p : Char → Bool) (k : List Char → Rest α) : Rest α
  | [] => none
  | c :: cs => if p c then many p (fun run => k (c :: run)) cs else none

/-- A run of characters of a class, the shortest first. -/
def few (p : Char → Bool) (k : List Char → Rest α) : Rest α
  | [] => k [] []
  | c :: cs =>
    k [] (c :: cs) <|> (if p c then few p (fun run => k (c :: run)) cs else none)

/-- A run of at least one character of a class, the shortest first. -/
def few1 (p : Char → Bool) (k : List Char → Rest α) : Rest α
  | [] => none
  | c :: cs => if p c then few p (fun run => k (c :: run)) cs else none

/-- Blanks, possibly none. -/
def blanks (k : Rest α) : Rest α :=
  many isBlank (fun _ => k)

def blanks1 (k : Rest α) : Rest α :=
  many1 isBlank (fun _ => k)

/-- Any characters, as few as possible. -/
def gap (k : List Char → Rest α) : Rest α :=
  few (fun _ => true) k

/-- Something that may be left out, preferably read. -/
def optional (m : Rest α → Rest α) (k : Rest α) : Rest α :=
  fun cs => m k cs <|> k cs

def atEnd (k : Rest α) : Rest α
  | [] => k []
  | _ :: _ => none

/-- Whether a word begins or ends between the character before and the text after. -/
def isWordEdge (before : Option Char) (after : List Char) : Bool :=
  before.any isWordChar != after.head?.any isWordChar

/-- The boundary of a word after the given character. -/
def wordEdge (before : Option Char) (k : Rest α) : Rest α :=
  fun cs => if isWordEdge before cs then k cs else none

/-- A match found in a text, with the offsets at which it starts and stops. -/
structure Found (α : Type) where
  /-- What was read. -/
  value : α
  /-- The offset of its first character. -/
  start : Nat
  /-- The offset just after its last character. -/
  stop : Nat
  covered : List Char

/-- The matches of `m` from left to right, none overlapping another. `m` sees the character before
the place it looks at and answers with what it read and the rest of the text; a match that takes
nothing is passed over. -/
def findFrom (m : Option Char → List Char → Option (α × List Char)) (offset : Nat)
    (before : Option Char) (text : List Char) : List (Found α) :=
  match text with
  | [] => []
  | c :: cs =>
    match m before (c :: cs) with
    | some (value, rest) =>
      if rest.length < (c :: cs).length then
        let size := (c :: cs).length - rest.length
        let covered := (c :: cs).take size
        ⟨value, offset, offset + size, covered⟩ ::
          findFrom m (offset + size) covered.getLast? rest
      else findFrom m (offset + 1) (some c) cs
    | none => findFrom m (offset + 1) (some c) cs
termination_by text.length
decreasing_by all_goals (simp only [List.length_cons] at *; omega)

def findAll (m : Option Char → List Char → Option (α × List Char)) (text : List Char) :
    List (Found α) :=
  findFrom m 0 none text

/-- The first match in a text. -/
def find? (m : Option Char → List Char → Option (α × List Char)) (text : List Char) :
    Option (Found α) :=
  (findAll m text).head?

/-- Whether a word occurs in a text, the case of its letters ignored. -/
def occurs (w : String) (text : List Char) : Bool :=
  (find? (fun _ => word w (fun rest => some ((), rest))) text).isSome

/-- The text with every match of `m` removed. -/
def removeAll (m : Option Char → List Char → Option (Unit × List Char)) (text : List Char) :
    List Char :=
  let spans := findAll m text
  (text.zipIdx.filter (fun (_, i) => !spans.any (fun f => f.start ≤ i && i < f.stop))).map (·.1)

end Formwork.Text.Match
