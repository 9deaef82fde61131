import Mathlib.Data.List.Basic
import Formwork.Form.Tag
import Formwork.Proofs.Text.Escape
import Formwork.Proofs.Text.Match

/-!
# Printed documents

A document is a list of trees of elements. Names and blanks are kept with what holds of their
characters, so that every document is one that can be printed. It is printed piece by piece: tags
with their attributes, the values escaped and between double quotes, and blanks between the tags. An
element without children is one tag that closes itself.
-/
namespace Formwork.Form

/-- The characters of the local name of a tag: all but blanks and those that stand around names. -/
def isTagChar (c : Char) : Bool :=
  !Text.isBlank c && c != ':' && c != '/' && c != '<' && c != '>'

/-- Characters of a class. -/
@[ext]
structure Chars (p : Char → Bool) where
  list : List Char
  all : ∀ c ∈ list, p c = true
  deriving DecidableEq

/-- At least one character of a class. -/
@[ext]
structure Run (p : Char → Bool) extends Chars p where
  ne_nil : list ≠ []
  deriving DecidableEq

/-- The given characters, checked to be of the class. -/
def Run.of {p : Char → Bool} (cs : List Char) (h : (!cs.isEmpty && cs.all p) = true) : Run p where
  list := cs
  all := List.all_eq_true.mp (Bool.and_eq_true_iff.mp h).2
  ne_nil := by simpa using (Bool.and_eq_true_iff.mp h).1

theorem Run.ofList_inj {p : Char → Bool} {r s : Run p} :
    String.ofList r.list = String.ofList s.list ↔ r = s := by
  rw [String.ofList_inj]
  exact ⟨Run.ext, fun h => by rw [h]⟩

abbrev Blanks := Chars Text.isBlank

/-- A name, possibly behind a scope and a colon. -/
structure Name (p q : Char → Bool) where
  scope : Option (Run p)
  base : Run q
  deriving DecidableEq

def Name.text {p q : Char → Bool} (n : Name p q) : List Char :=
  n.scope.elim [] (fun s => s.list ++ [':']) ++ n.base.list

/-- An attribute with the blanks before it. -/
structure Attribute where
  gap : Run Text.isBlank
  name : Name isAttributeChar isAttributeChar
  value : String
  deriving DecidableEq

namespace Attribute

/-- The text of an attribute without the blanks before it. -/
def bare (a : Attribute) : List Char :=
  a.name.text ++ '=' :: '\x22' :: (Text.escapedText a.value.toList ++ ['\x22'])

def text (a : Attribute) : List Char :=
  a.gap.list ++ a.bare

def pair (a : Attribute) : String × String :=
  (String.ofList a.name.text, a.value)

end Attribute

/-- The tag that opens an element, with one attribute at least. -/
structure OpenTag where
  name : Name isPrefixChar isTagChar
  first : Attribute
  more : List Attribute
  tail : Blanks
  deriving DecidableEq

namespace OpenTag

/-- The text between the blanks behind the name and the end of the tag. -/
def body (t : OpenTag) (closed : Bool) : List Char :=
  t.first.bare ++ (t.more.flatMap Attribute.text ++ t.tail.list) ++ if closed then ['/'] else []

/-- The text of a tag, which may close its element at once. -/
def text (t : OpenTag) (closed : Bool) : List Char :=
  '<' :: (t.name.text ++ (t.first.gap.list ++ (t.body closed ++ ['>'])))

end OpenTag

/-- A piece of a document. -/
inductive Piece where
  /-- A tag that opens an element and may close it at once. -/
  | opening (tag : OpenTag) (closed : Bool)
  | closing (name : Name isPrefixChar isTagChar)
  | blanks (b : Blanks)

def Piece.text : Piece → List Char
  | .opening tag closed => tag.text closed
  | .closing name => '<' :: '/' :: (name.text ++ ['>'])
  | .blanks b => b.list

/-- An element with the white space behind its opening tag and behind itself. -/
inductive Element where
  | node (tag : OpenTag) (inside : Blanks) (children : List Element) (after : Blanks)

namespace Element

def tag : Element → OpenTag
  | node tag _ _ _ => tag

def children : Element → List Element
  | node _ _ children _ => children

mutual

def pieces : Element → List Piece
  | node tag inside children after =>
    if children.isEmpty then [.opening tag true, .blanks after]
    else .opening tag false :: .blanks inside ::
      (piecesOf children ++ [.closing tag.name, .blanks after])

def piecesOf : List Element → List Piece
  | [] => []
  | e :: rest => e.pieces ++ piecesOf rest

end

mutual

/-- An element and those in it, in document order. -/
def withInner : Element → List Element
  | node tag inside children after => node tag inside children after :: withInnerOf children

def withInnerOf : List Element → List Element
  | [] => []
  | e :: rest => e.withInner ++ withInnerOf rest

end

end Element

structure Document where
  before : Blanks
  roots : List Element

/-- A tag that opens an element, at its place in a document. -/
structure PlacedTag where
  tag : OpenTag
  closed : Bool
  start : Nat

namespace PlacedTag

/-- What scanning finds where the tag stands. -/
def toTag (p : PlacedTag) : Tag where
  attributes := firsts (·.1) ((p.tag.first :: p.tag.more).map Attribute.pair)
  start := p.start
  stop := p.start + (p.tag.text p.closed).length
  selfClosing := p.closed

end PlacedTag

/-- The opening tag that a piece is, at an offset. -/
def Piece.placed? (start : Nat) : Piece → Option PlacedTag
  | .opening tag closed => some { tag, closed, start }
  | .closing _ => none
  | .blanks _ => none

namespace Document

def pieces (d : Document) : List Piece :=
  .blanks d.before :: Element.piecesOf d.roots

def text (d : Document) : List Char :=
  d.pieces.flatMap Piece.text

def elements (d : Document) : List Element :=
  Element.withInnerOf d.roots

/-- The opening tags of a document at their places. -/
def openTags (d : Document) : List PlacedTag :=
  (Text.Match.located Piece.text 0 d.pieces).filterMap (fun (p, start) => p.placed? start)

/-- An opening tag stands in the text where it is placed. -/
theorem exists_of_mem_openTags {d : Document} {p : PlacedTag} (h : p ∈ d.openTags) :
    ∃ before after, d.text = before ++ p.tag.text p.closed ++ after ∧ p.start = before.length := by
  obtain ⟨⟨piece, start⟩, hlocated, hplaced⟩ := List.mem_filterMap.mp h
  obtain ⟨before, after, hsplit, hstart⟩ := Text.Match.exists_of_mem_located hlocated
  cases piece with
  | opening tag closed =>
    obtain rfl := Option.some.inj hplaced
    exact ⟨before, after, hsplit, hstart.trans (Nat.zero_add _)⟩
  | closing name => cases hplaced
  | blanks b => cases hplaced

end Document

/-! ## Tags and elements -/

/-- The opening tag that a piece is, and whether it closes its element at once. -/
def Piece.opened? : Piece → Option (OpenTag × Bool)
  | .opening tag closed => some (tag, closed)
  | .closing _ => none
  | .blanks _ => none

namespace Element

mutual

theorem opened_pieces (e : Element) : e.pieces.filterMap Piece.opened? =
    e.withInner.map (fun e => (e.tag, e.children.isEmpty)) := by
  cases e with
  | node tag inside children after =>
    have hinner := opened_piecesOf children
    rw [pieces, withInner, List.map_cons]
    by_cases hchildren : children.isEmpty = true
    · obtain rfl := List.isEmpty_iff.mp hchildren
      rfl
    · have hopen : children.isEmpty = false := by simpa using hchildren
      rw [if_neg hchildren]
      simp only [List.filterMap_cons, List.filterMap_append, hinner, Piece.opened?,
        List.filterMap_nil, List.append_nil]
      rw [← hopen]
      rfl

theorem opened_piecesOf (es : List Element) : (piecesOf es).filterMap Piece.opened? =
    (withInnerOf es).map (fun e => (e.tag, e.children.isEmpty)) := by
  cases es with
  | nil => rfl
  | cons e es =>
    rw [piecesOf, withInnerOf, List.filterMap_append, List.map_append, opened_pieces e,
      opened_piecesOf es]

end

end Element

/-- The opening tags of a document are those of its elements, in document order; those of elements
without children close themselves. -/
theorem Document.map_openTags (d : Document) : d.openTags.map (fun p => (p.tag, p.closed)) =
    d.elements.map (fun e => (e.tag, e.children.isEmpty)) := by
  have hopened : ∀ (p : Piece) (start : Nat),
      (p.placed? start).map (fun p => (p.tag, p.closed)) = p.opened? := by
    intro p start
    cases p <;> rfl
  have hlocated : d.openTags.map (fun p => (p.tag, p.closed)) =
      ((Text.Match.located Piece.text 0 d.pieces).map (·.1)).filterMap Piece.opened? := by
    rw [openTags, List.map_filterMap, List.filterMap_map]
    exact congrArg (List.filterMap · _) (funext fun p => hopened p.1 p.2)
  rw [hlocated, Text.Match.map_fst_located, pieces, List.filterMap_cons_none rfl,
    Element.opened_piecesOf]
  rfl

end Formwork.Form
