import Mathlib.Data.List.Basic
import Formwork.Proofs.Form.Scan
import Formwork.Proofs.Form.Span

/-!
# Documents with text and with empty elements

Whether an element closes itself or has a closing tag matters to some readers even if the element is
empty, and any text may stand between tags. Contents are documents of this kind: text in which no
tag begins, elements that close themselves, and elements with a closing tag and content of their
own. A scan for opening tags finds the elements of a name, however they are closed.
-/
namespace Formwork.Form

open Text.Match

/-- What a document or an element contains. -/
inductive Content where
  | nil
  /-- Text without an angle bracket that could begin a tag. -/
  | text (cs : Chars (· != '<')) (rest : Content)
  /-- An element that closes itself. -/
  | empty (tag : OpenTag) (rest : Content)
  /-- An element with a closing tag. -/
  | full (tag : OpenTag) (content rest : Content)
  deriving DecidableEq

namespace Content

def print : Content → List Char
  | nil => []
  | text cs rest => cs.list ++ rest.print
  | empty tag rest => tag.text true ++ rest.print
  | full tag content rest =>
    tag.text false ++ (content.print ++ ((Piece.closing tag.name).text ++ rest.print))

end Content

/-- An element: its tag, and what stands before its closing tag if it has one. -/
structure Tagged where
  tag : OpenTag
  content : Option Content
  deriving DecidableEq

namespace Tagged

def localName (x : Tagged) : String :=
  String.ofList x.tag.name.base.list

def attributes (x : Tagged) : Attributes :=
  firsts (·.1) ((x.tag.first :: x.tag.more).map Attribute.pair)

/-- The value of the name attribute. -/
def givenName (x : Tagged) : String :=
  x.attributes.text "Name"

theorem localName_eq {x : Tagged} {name : Run isTagChar} :
    x.localName = String.ofList name.list ↔ x.tag.name.base = name := by
  rw [localName, Run.ofList_inj]

end Tagged

namespace Content

/-- The elements of a content and those in them, in document order. -/
def elements : Content → List Tagged
  | nil => []
  | text _ rest => rest.elements
  | empty tag rest => ⟨tag, none⟩ :: rest.elements
  | full tag content rest => ⟨tag, some content⟩ :: (content.elements ++ rest.elements)

/-! ## Scanning for opening tags -/

theorem notMem_text (cs : Chars (· != '<')) : '<' ∉ cs.list := by
  intro h
  exact absurd (cs.all '<' h) (by decide)

variable {name : Run isTagChar}

theorem passes_openTag?_text (name : Run isTagChar) (cs : Chars (· != '<')) :
    Passes (openTag? name.list) cs.list :=
  fun _ hne ht => openTag?_suffix (notMem_text cs) hne ht

theorem passes_openTag?_opening {tag : OpenTag} (h : tag.name.base ≠ name) (closed : Bool) :
    Passes (openTag? name.list) (tag.text closed) := by
  have hread : Piece.read? name (.opening tag closed) = none :=
    if_neg fun hlist => h (Run.ext hlist)
  exact fun _ hne ht => openTag?_eq_none_of_read? hread hne ht

theorem passes_openTag?_closing (name : Run isTagChar) (n : Name isPrefixChar isTagChar) :
    Passes (openTag? name.list) (Piece.closing n).text :=
  fun _ hne ht => openTag?_eq_none_of_read? (p := .closing n) rfl hne ht

theorem readings_openTag?_opening (name : Run isTagChar) (tag : OpenTag) (closed : Bool)
    (rest : List Char) :
    readings (openTag? name.list) (tag.text closed ++ rest) =
      (if tag.name.base = name then [tag.body closed] else []) ++
        readings (openTag? name.list) rest := by
  split
  · next h =>
    have hne : tag.text closed ≠ [] := List.cons_ne_nil _ _
    have hopen := openTag?_text name tag closed rest
    rw [if_pos (congrArg (·.list) h)] at hopen
    exact readings_hit hne hopen
  · next h => exact (passes_openTag?_opening h closed).readings rest

/-- A scan for a name reads the opening tags of the elements of the name. -/
theorem readings_openTag?_print (name : Run isTagChar) (c : Content) (rest : List Char) :
    readings (openTag? name.list) (c.print ++ rest) =
      (c.elements.filter (·.tag.name.base = name)).map (fun x => x.tag.body x.content.isNone) ++
        readings (openTag? name.list) rest := by
  induction c generalizing rest with
  | nil => rfl
  | text cs more ih =>
    rw [print, List.append_assoc, (passes_openTag?_text name cs).readings, ih, elements]
  | empty tag more ih =>
    rw [print, List.append_assoc, readings_openTag?_opening, ih, elements]
    by_cases h : tag.name.base = name
    · simp [h]
    · simp [h]
  | full tag content more hcontent hmore =>
    simp only [print, List.append_assoc]
    rw [readings_openTag?_opening, hcontent, (passes_openTag?_closing name tag.name).readings,
      hmore, elements]
    by_cases h : tag.name.base = name
    · simp [h]
    · simp [h]

/-- What a scan for a name finds, apart from offsets: the elements of the name with their attributes
and with whether they close themselves. -/
theorem map_scanTags_print (name : Run isTagChar) (c : Content) :
    (scanTags (String.ofList name.list) c.print).map
        (·.map (fun t => (t.attributes, t.selfClosing))) =
      .ok ((c.elements.filter (·.localName == String.ofList name.list)).map
        (fun x => (x.attributes, x.content.isNone))) := by
  have hread := readings_openTag?_print name c []
  rw [List.append_nil, readings_nil, List.append_nil] at hread
  have hnamed : c.elements.filter (·.localName == String.ofList name.list) =
      c.elements.filter (·.tag.name.base = name) := by
    refine List.filter_congr fun x _ => ?_
    rw [Bool.eq_iff_iff, beq_iff_eq, decide_eq_true_eq, Tagged.localName_eq]
  have hfound : ∀ found : Text.Match.Found (List Char),
      (Tag.ofFound found).map (fun t => (t.attributes, t.selfClosing)) =
        (readAttributes (attributeText found.value)).map (·, closesItself found.value) := by
    intro found
    rw [Tag.ofFound]
    cases readAttributes (attributeText found.value) <;> rfl
  calc (scanTags (String.ofList name.list) c.print).map
        (·.map (fun t => (t.attributes, t.selfClosing)))
      = (readings (openTag? name.list) c.print).mapM (fun body =>
          (readAttributes (attributeText body)).map (·, closesItself body)) := by
        rw [scanTags, writtenTags, String.toList_ofList, map_mapM, readings, List.mapM_map]
        simp only [hfound]
        rfl
    _ = _ := by
        rw [hread, hnamed, mapM_eq_ok, List.map_map, List.map_map]
        refine List.map_congr_left fun x _ => ?_
        rw [Function.comp_apply, OpenTag.readAttributes_attributeText, OpenTag.closesItself_body]
        rfl

end Content

end Formwork.Form
