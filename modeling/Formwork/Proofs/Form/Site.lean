import Mathlib.Data.List.Basic
import Formwork.Proofs.Form.Document

/-!
# Elements at their places

An element of a document stands at an offset, with the elements that contain it around it. Its span
reaches from its opening tag to the closing tag that was printed for it. Spans are nested as the
elements are: one element stands around another exactly if its span surrounds the tag of the other.
-/
namespace Formwork.Form

open Text.Match

/-! ## Pieces of elements -/

def extent (ps : List Piece) : Nat :=
  (ps.flatMap Piece.text).length

theorem extent_append (ps qs : List Piece) : extent (ps ++ qs) = extent ps + extent qs := by
  rw [extent, List.flatMap_append, List.length_append, extent, extent]

def placedTags (offset : Nat) (ps : List Piece) : List PlacedTag :=
  (located Piece.text offset ps).filterMap (fun (p, start) => p.placed? start)

theorem placedTags_append (offset : Nat) (ps qs : List Piece) :
    placedTags offset (ps ++ qs) =
      placedTags offset ps ++ placedTags (offset + extent ps) qs := by
  rw [placedTags, located_append, List.filterMap_append, placedTags, placedTags, extent]

namespace Element

def after : Element → Blanks
  | node _ _ _ after => after

/-- The pieces before the children. -/
def head : Element → List Piece
  | node tag inside children _ =>
    if children.isEmpty then [.opening tag true] else [.opening tag false, .blanks inside]

/-- The pieces behind the children: the closing tag, if there is one. -/
def foot : Element → List Piece
  | node tag _ children _ => if children.isEmpty then [] else [.closing tag.name]

/-- The pieces of an element without the blanks behind it. -/
def span (e : Element) : List Piece :=
  e.head ++ piecesOf e.children ++ e.foot

/-- The elements in an element, in document order. -/
def inner (e : Element) : List Element :=
  withInnerOf e.children

theorem piecesOf_cons (e : Element) (es : List Element) :
    piecesOf (e :: es) = e.span ++ .blanks e.after :: piecesOf es := by
  cases e with
  | node tag inside inner after =>
    rw [piecesOf, pieces, span, head, foot, children]
    by_cases h : inner.isEmpty = true
    · obtain rfl := List.isEmpty_iff.mp h
      rfl
    · simp [h, Element.after]

theorem withInnerOf_cons (e : Element) (es : List Element) :
    withInnerOf (e :: es) = e :: (e.inner ++ withInnerOf es) := by
  cases e
  rfl

mutual

theorem children_induction {P : List Element → Prop} (nil : P [])
    (cons : ∀ e es, P e.children → P es → P (e :: es)) (e : Element) : P e.children := by
  cases e with
  | node tag inside inner after => exact forest_induction nil cons inner

/-- Induction on lists of elements: what holds of the children of the first one and of the rest
holds of the list. -/
theorem forest_induction {P : List Element → Prop} (nil : P [])
    (cons : ∀ e es, P e.children → P es → P (e :: es)) (es : List Element) : P es := by
  cases es with
  | nil => exact nil
  | cons e es =>
    exact cons e es (children_induction nil cons e) (forest_induction nil cons es)

end

end Element

/-! ## Sites -/

/-- An element at its place in a document. -/
structure Site where
  element : Element
  /-- The elements that contain it, the innermost first. -/
  around : List Element
  /-- The offset of its first character. -/
  start : Nat

namespace Site

/-- The offset just after the closing tag, or after the opening tag if that closes itself. -/
def stop (x : Site) : Nat :=
  x.start + extent x.element.span

def tag (x : Site) : PlacedTag :=
  { tag := x.element.tag, closed := x.element.children.isEmpty, start := x.start }

/-- Whether an offset lies in the element behind its first character. -/
def surrounds (x : Site) (offset : Nat) : Bool :=
  x.start < offset && offset < x.stop

theorem surrounds_iff {x : Site} {offset : Nat} : x.surrounds offset = true ↔
    x.start < offset ∧ offset < x.stop := by
  simp [surrounds]

theorem not_surrounds {x : Site} {offset : Nat} (h : offset ≤ x.start ∨ x.stop ≤ offset) :
    ¬ x.surrounds offset = true := by
  rw [surrounds_iff]
  omega

end Site

namespace Element

mutual

def sites (around : List Element) (start : Nat) : Element → List Site
  | node tag inside children after =>
    ⟨node tag inside children after, around, start⟩ ::
      sitesOf (node tag inside children after :: around)
        (start + extent (node tag inside children after).head) children

/-- The elements of a list, and those in them, at their places. -/
def sitesOf (around : List Element) (start : Nat) : List Element → List Site
  | [] => []
  | e :: es => e.sites around start ++ sitesOf around (start + extent e.pieces) es

end

end Element

/-- The elements of a document at their places, in document order. -/
def Document.sites (d : Document) : List Site :=
  Element.sitesOf [] d.before.list.length d.roots

namespace Element

theorem sitesOf_cons (around : List Element) (start : Nat) (e : Element) (es : List Element) :
    sitesOf around start (e :: es) = ⟨e, around, start⟩ ::
      (sitesOf (e :: around) (start + extent e.head) e.children ++
        sitesOf around (start + extent e.pieces) es) := by
  cases e
  rfl

theorem extent_pieces (e : Element) : extent e.pieces = extent e.span + e.after.list.length := by
  have hpieces : e.pieces = e.span ++ [.blanks e.after] := by
    rw [← List.append_nil e.pieces]
    exact piecesOf_cons e []
  rw [hpieces, extent_append]
  simp [extent, Piece.text]

theorem extent_span (e : Element) :
    extent e.span = extent e.head + extent (piecesOf e.children) + extent e.foot := by
  rw [span, extent_append, extent_append]

theorem extent_piecesOf_cons (e : Element) (es : List Element) :
    extent (piecesOf (e :: es)) = extent e.pieces + extent (piecesOf es) := by
  rw [piecesOf, extent_append]

theorem extent_head (e : Element) :
    0 < (e.tag.text e.children.isEmpty).length ∧
      (e.tag.text e.children.isEmpty).length ≤ extent e.head := by
  cases e with
  | node tag inside inner after =>
    rw [head, children, Element.tag]
    constructor
    · simp [OpenTag.text]
    · by_cases h : inner.isEmpty = true
      · simp [h, extent, Piece.text]
      · simp [h, extent, Piece.text]

theorem map_element_sitesOf (around : List Element) (start : Nat) (es : List Element) :
    (sitesOf around start es).map (·.element) = withInnerOf es := by
  induction es using forest_induction generalizing around start with
  | nil => rfl
  | cons e es hchildren hes =>
    rw [sitesOf_cons, withInnerOf_cons, List.map_cons, List.map_append, hchildren, hes, inner]

theorem placedTags_piecesOf (around : List Element) (start : Nat) (es : List Element) :
    placedTags start (piecesOf es) = (sitesOf around start es).map Site.tag := by
  induction es using forest_induction generalizing around start with
  | nil => rfl
  | cons e es hchildren hes =>
    have hhead : placedTags start e.head = [⟨e.tag, e.children.isEmpty, start⟩] := by
      cases e with
      | node tag inside inner after => cases inner <;> rfl
    have hfoot : ∀ offset, placedTags offset e.foot = [] := by
      intro offset
      cases e with
      | node tag inside inner after => cases inner <;> rfl
    have hblanks : ∀ offset, placedTags offset [Piece.blanks e.after] = [] := fun _ => rfl
    have hlength : extent [Piece.blanks e.after] = e.after.list.length := by
      simp [extent, Piece.text]
    rw [piecesOf_cons, ← List.singleton_append, placedTags_append, placedTags_append, hblanks,
      span, placedTags_append, placedTags_append, hhead, hfoot, hchildren (e :: around), hes around,
      sitesOf_cons, List.map_cons, List.map_append, extent_pieces, hlength, span]
    simp only [List.append_nil, List.nil_append, List.cons_append, Nat.add_assoc]
    rfl

variable {around : List Element} {start : Nat} {es : List Element} {x y : Site}

/-- An element lies where its list lies. -/
theorem bounds_of_mem_sitesOf (h : x ∈ sitesOf around start es) :
    start ≤ x.start ∧ x.start < x.stop ∧ x.stop ≤ start + extent (piecesOf es) := by
  induction es using forest_induction generalizing around start with
  | nil => cases h
  | cons e es hchildren hes =>
    have hspan := e.extent_span
    have hpieces := e.extent_pieces
    have hhead := e.extent_head
    rw [extent_piecesOf_cons]
    rw [sitesOf_cons] at h
    rcases List.mem_cons.mp h with rfl | h
    · simp only [Site.stop]
      omega
    · rcases List.mem_append.mp h with h | h
      · have hin := hchildren h
        omega
      · have hin := hes h
        omega

/-- The elements in the first element lie in its span, behind its opening tag. -/
theorem bounds_of_mem_children {e : Element}
    (h : x ∈ sitesOf (e :: around) (start + extent e.head) e.children) :
    start < x.start ∧ x.start < x.stop ∧ x.stop ≤ start + extent e.span := by
  have hin := bounds_of_mem_sitesOf h
  have hspan := e.extent_span
  have hhead := e.extent_head
  omega

theorem surrounds_child {e : Element}
    (h : x ∈ sitesOf (e :: around) (start + extent e.head) e.children) :
    Site.surrounds ⟨e, around, start⟩ x.start = true := by
  obtain ⟨hstart, hbetween, hstop⟩ := bounds_of_mem_children h
  rw [Site.surrounds_iff]
  show start < x.start ∧ x.start < start + extent e.span
  omega

/-- The elements behind the first element lie behind its span. -/
theorem bounds_of_mem_rest {e : Element}
    (h : x ∈ sitesOf around (start + extent e.pieces) es) :
    start + extent e.span ≤ x.start ∧ x.start < x.stop := by
  have hin := bounds_of_mem_sitesOf h
  have hpieces := e.extent_pieces
  omega

theorem subset_around (h : x ∈ sitesOf around start es) : around ⊆ x.around := by
  induction es using forest_induction generalizing around start with
  | nil => cases h
  | cons e es hchildren hes =>
    rw [sitesOf_cons] at h
    rcases List.mem_cons.mp h with rfl | h
    · exact List.Subset.refl around
    · rcases List.mem_append.mp h with h | h
      · exact List.Subset.trans (List.subset_cons_self e around) (hchildren h)
      · exact hes h

/-- An element whose span surrounds the tag of another one stands around it. -/
theorem mem_around_of_surrounds (hx : x ∈ sitesOf around start es)
    (hy : y ∈ sitesOf around start es) (h : y.surrounds x.start = true) :
    y.element ∈ x.around := by
  rw [Site.surrounds_iff] at h
  induction es using forest_induction generalizing around start with
  | nil => cases hx
  | cons e es hchildren hes =>
    rw [sitesOf_cons, List.mem_cons, List.mem_append] at hx hy
    rcases hx with rfl | hx | hx
    · -- Nothing begins before the first element.
      rcases hy with rfl | hy | hy
      · exact absurd h.1 (Nat.lt_irrefl _)
      · have hin := bounds_of_mem_children hy
        dsimp only at h
        omega
      · have hin := bounds_of_mem_rest hy
        dsimp only at h
        omega
    · rcases hy with rfl | hy | hy
      · exact subset_around hx List.mem_cons_self
      · exact hchildren hx hy
      · have hin := bounds_of_mem_children hx
        have hout := bounds_of_mem_rest hy
        omega
    · -- What begins before the rest also ends before it.
      have hout := bounds_of_mem_rest hx
      rcases hy with rfl | hy | hy
      · rw [Site.stop] at h
        dsimp only at h
        omega
      · have hin := bounds_of_mem_children hy
        omega
      · exact hes hx hy

/-- An element around another one has a span that surrounds the tag of the other. -/
theorem exists_surrounds {a : Element} (hx : x ∈ sitesOf around start es) (ha : a ∈ x.around) :
    a ∈ around ∨ ∃ y ∈ sitesOf around start es, y.element = a ∧ y.surrounds x.start = true := by
  induction es using forest_induction generalizing around start with
  | nil => cases hx
  | cons e es hchildren hes =>
    rw [sitesOf_cons] at hx ⊢
    rcases List.mem_cons.mp hx with rfl | hx
    · exact Or.inl ha
    · rcases List.mem_append.mp hx with hx | hx
      · rcases hchildren hx with h | ⟨y, hy, hya, hsurrounds⟩
        · rcases List.mem_cons.mp h with rfl | h
          · exact Or.inr ⟨_, List.mem_cons_self, rfl, surrounds_child hx⟩
          · exact Or.inl h
        · exact Or.inr ⟨y, List.mem_cons_of_mem _ (List.mem_append_left _ hy), hya, hsurrounds⟩
      · rcases hes hx with h | ⟨y, hy, hya, hsurrounds⟩
        · exact Or.inl h
        · exact Or.inr ⟨y, List.mem_cons_of_mem _ (List.mem_append_right _ hy), hya, hsurrounds⟩

/-- What the span of an element surrounds is what the element contains. -/
theorem filter_surrounds (hy : y ∈ sitesOf around start es) :
    ((sitesOf around start es).filter (fun x => y.surrounds x.start)).map (·.element) =
      y.element.inner := by
  induction es using forest_induction generalizing around start with
  | nil => cases hy
  | cons e es hchildren hes =>
    rw [sitesOf_cons, List.mem_cons, List.mem_append] at hy
    rw [sitesOf_cons, List.filter_cons, List.filter_append]
    rcases hy with rfl | hy | hy
    · have hin : ∀ x ∈ sitesOf (e :: around) (start + extent e.head) e.children,
          Site.surrounds ⟨e, around, start⟩ x.start = true := fun _ hx => surrounds_child hx
      have hout : ∀ x ∈ sitesOf around (start + extent e.pieces) es,
          ¬ Site.surrounds ⟨e, around, start⟩ x.start = true := fun _ hx =>
        Site.not_surrounds (Or.inr (bounds_of_mem_rest hx).1)
      have hself : ¬ Site.surrounds ⟨e, around, start⟩ start = true :=
        Site.not_surrounds (Or.inl (Nat.le_refl start))
      rw [if_neg hself, List.filter_eq_self.mpr hin, List.filter_eq_nil_iff.mpr hout,
        List.append_nil, map_element_sitesOf, inner]
    · obtain ⟨hstart, -, hstop⟩ := bounds_of_mem_children hy
      have hself : ¬ y.surrounds start = true := Site.not_surrounds (Or.inl (Nat.le_of_lt hstart))
      have hout : ∀ x ∈ sitesOf around (start + extent e.pieces) es,
          ¬ y.surrounds x.start = true := fun _ hx =>
        Site.not_surrounds (Or.inr (Nat.le_trans hstop (bounds_of_mem_rest hx).1))
      rw [if_neg hself, List.filter_eq_nil_iff.mpr hout, List.append_nil, hchildren hy]
    · obtain ⟨hstart, -⟩ := bounds_of_mem_rest hy
      have hself : ¬ y.surrounds start = true := by
        apply Site.not_surrounds
        omega
      have hin : ∀ x ∈ sitesOf (e :: around) (start + extent e.head) e.children,
          ¬ y.surrounds x.start = true := by
        intro x hx
        obtain ⟨-, hbetween, hstop⟩ := bounds_of_mem_children hx
        apply Site.not_surrounds
        omega
      rw [if_neg hself, List.filter_eq_nil_iff.mpr hin, List.nil_append, hes hy]

end Element

end Formwork.Form
