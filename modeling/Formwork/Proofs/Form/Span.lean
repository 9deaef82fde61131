import Mathlib.Data.List.Basic
import Formwork.Form.Reader
import Formwork.Proofs.Form.Scan
import Formwork.Proofs.Form.Site

/-!
# Where elements end

The end of an element is looked for from its opening tag on: it is the first closing tag of the name
that follows. In a printed document this is the closing tag of the element itself, provided that no
element of the name contains another.
-/
namespace Formwork.Form

open Text.Match

/-! ## Closing tags -/

/-- A way to read the end of a tag: it fails inside a name and takes the bracket. -/
structure ReadsEnd (ends : List Char → Option (List Char)) : Prop where
  inside : ∀ c cs, endsName c = false → ends (c :: cs) = none
  bracket : ∀ rest, ends ('>' :: rest) = some rest

theorem readsEnd_tagEnd? : ReadsEnd tagEnd? where
  inside := by
    intro c cs h
    rw [tagEnd?]
    rintro rest heq
    exact (endsName_eq_false.mp h).2 (List.cons.inj heq).1
  bracket := fun _ => rfl

theorem readsEnd_looseTagEnd? : ReadsEnd looseTagEnd? where
  inside := by
    intro c cs h
    rw [looseTagEnd?, List.dropWhile_cons_of_neg (by simp [(endsName_eq_false.mp h).1])]
    exact readsEnd_tagEnd?.inside c cs h
  bracket := by
    intro rest
    have hblank : ¬ Text.isBlank '>' = true := by decide
    rw [looseTagEnd?, List.dropWhile_cons_of_neg hblank, readsEnd_tagEnd?.bracket]

theorem Name.exists_first (n : Name isPrefixChar isTagChar) :
    ∃ c cs, n.text = c :: cs ∧ c ≠ '/' := by
  have hstroke : ∀ c, isTagChar c = true → c ≠ '/' := fun c hc => (isTagChar_iff.mp hc).2.2.1
  obtain ⟨scope, base⟩ := n
  cases scope with
  | none =>
    obtain ⟨c, cs, hbase⟩ := List.exists_cons_of_ne_nil base.ne_nil
    refine ⟨c, cs, hbase, hstroke c (base.all c ?_)⟩
    rw [hbase]
    exact List.mem_cons_self
  | some scope =>
    obtain ⟨c, cs, hscope⟩ := List.exists_cons_of_ne_nil scope.ne_nil
    refine ⟨c, cs ++ ':' :: base.list, by simp [Name.text, hscope], hstroke c ?_⟩
    apply isTagChar_of_isAttributeChar
    apply isAttributeChar_of_isPrefixChar
    apply scope.all
    rw [hscope]
    exact List.mem_cons_self

section Ends

variable {ends : List Char → Option (List Char)}

theorem closeTag?_text (h : ReadsEnd ends) (name : Run isTagChar)
    (n : Name isPrefixChar isTagChar) (rest : List Char) :
    closeTag? name.list ends (Piece.text (.closing n) ++ rest) =
      if n.base.list = name.list then some ((), rest) else none := by
  have hname := afterTagName?_text h.inside name n (show endsName '>' = true by decide) rest
  have htext : Piece.text (.closing n) ++ rest = '<' :: '/' :: (n.text ++ '>' :: rest) := by
    simp [Piece.text]
  rw [htext, closeTag?, hname, h.bracket]
  split <;> rfl

theorem closeTag?_cons (name : List Char) {c : Char} (h : c ≠ '<') (cs : List Char) :
    closeTag? name ends (c :: cs) = none := by
  rw [closeTag?]
  rintro rest heq
  exact h (List.cons.inj heq).1

/-- No closing tag begins behind the start of a piece. -/
theorem closeTag?_suffix {name cs t : List Char} (hcs : '<' ∉ cs) (hne : t ≠ []) (h : t <:+ cs)
    (rest : List Char) : closeTag? name ends (t ++ rest) = none := by
  obtain ⟨c, t, rfl⟩ := List.exists_cons_of_ne_nil hne
  refine closeTag?_cons name ?_ _
  rintro rfl
  exact hcs (h.subset List.mem_cons_self)

theorem closeTag?_opening (name : List Char) (t : OpenTag) (closed : Bool) (rest : List Char) :
    closeTag? name ends (t.text closed ++ rest) = none := by
  obtain ⟨c, cs, hname, hc⟩ := t.name.exists_first
  rw [OpenTag.text, hname, List.cons_append, List.cons_append, List.cons_append, closeTag?]
  rintro rest heq
  exact hc (List.cons.inj (List.cons.inj heq).2).1

def Piece.closes? (name : Run isTagChar) : Piece → Option Unit
  | .closing n => if n.base = name then some () else none
  | .opening _ _ => none
  | .blanks _ => none

theorem closeTag?_of_closes? (hends : ReadsEnd ends) {name : Run isTagChar} {p : Piece}
    (h : p.closes? name = some ()) :
    p.text ≠ [] ∧ ∀ rest, closeTag? name.list ends (p.text ++ rest) = some ((), rest) := by
  cases p with
  | closing n =>
    rw [Piece.closes?] at h
    split at h
    · next hname =>
      refine ⟨List.cons_ne_nil _ _, fun rest => ?_⟩
      rw [closeTag?_text hends, if_pos (congrArg (·.list) hname)]
    · cases h
  | opening tag closed => cases h
  | blanks b => cases h

theorem closeTag?_eq_none_of_closes? (hends : ReadsEnd ends) {name : Run isTagChar} {p : Piece}
    (h : p.closes? name = none) {t : List Char} (hne : t ≠ []) (ht : t <:+ p.text)
    (rest : List Char) : closeTag? name.list ends (t ++ rest) = none := by
  cases p with
  | opening tag closed =>
    rcases List.suffix_cons_iff.mp ht with rfl | ht
    · exact closeTag?_opening name.list tag closed rest
    · exact closeTag?_suffix (notMem_opening tag closed) hne ht rest
  | closing n =>
    rcases List.suffix_cons_iff.mp ht with rfl | ht
    · have hother : ¬ n.base.list = name.list := by
        intro hlist
        rw [Piece.closes?, if_pos (Run.ext hlist)] at h
        cases h
      exact (closeTag?_text hends name n rest).trans (if_neg hother)
    · refine closeTag?_suffix ?_ hne ht rest
      simp only [List.mem_cons, List.mem_append, not_or]
      exact ⟨by decide, fun h => (Name.mem_tag_text h).2.1 rfl, by decide, List.not_mem_nil⟩
  | blanks b =>
    exact closeTag?_suffix (fun h => ne_of_isBlank (b.all _ h) (by decide) rfl) hne ht rest

end Ends

/-- The offsets at which the closing tags of a name among pieces start and stop. -/
def closesIn (name : Run isTagChar) (offset : Nat) (ps : List Piece) : List (Nat × Nat) :=
  (located Piece.text offset ps).filterMap (fun p =>
    (p.1.closes? name).map (fun _ => (p.2, p.2 + p.1.text.length)))

theorem scanCloses_text (name : Run isTagChar) (d : Document) :
    scanCloses (String.ofList name.list) d.text = closesIn name 0 d.pieces := by
  have hends := readsEnd_looseTagEnd?
  have hfound := findFrom_flatMap (Piece.closes? name) (fun p _ => closeTag?_of_closes? hends)
    (fun p hread t hne ht rest => closeTag?_eq_none_of_closes? hends hread hne ht rest) 0 d.pieces
  rw [scanCloses, String.toList_ofList, findAll, Document.text, hfound, List.map_filterMap,
    closesIn]
  refine congrArg (List.filterMap · _) (funext fun p => ?_)
  rw [Option.map_map]
  rfl

theorem closesIn_append (name : Run isTagChar) (offset : Nat) (ps qs : List Piece) :
    closesIn name offset (ps ++ qs) =
      closesIn name offset ps ++ closesIn name (offset + extent ps) qs := by
  rw [closesIn, located_append, List.filterMap_append, closesIn, closesIn, extent]

theorem bounds_of_mem_closesIn {name : Run isTagChar} {offset : Nat} {ps : List Piece}
    {c : Nat × Nat} (h : c ∈ closesIn name offset ps) :
    offset ≤ c.1 ∧ c.1 < offset + extent ps := by
  obtain ⟨⟨p, start⟩, hlocated, hclose⟩ := List.mem_filterMap.mp h
  obtain ⟨before, after, hsplit, hstart⟩ := exists_of_mem_located hlocated
  have hlength := congrArg List.length hsplit
  rw [List.length_append, List.length_append] at hlength
  obtain ⟨_, hcloses, rfl⟩ := Option.map_eq_some_iff.mp hclose
  have hne : p.text ≠ [] := (closeTag?_of_closes? readsEnd_tagEnd? hcloses).1
  have hpos : 0 < p.text.length := List.length_pos_iff.mpr hne
  rw [extent]
  dsimp only
  omega

/-! ## The ends of elements -/

namespace Element

variable {name : Run isTagChar}

theorem closesIn_foot (name : Run isTagChar) (offset : Nat) (e : Element) :
    closesIn name offset e.foot =
      if !e.children.isEmpty ∧ e.tag.name.base = name then [(offset, offset + extent e.foot)]
      else [] := by
  cases e with
  | node tag inside inner after =>
    rw [foot, children, Element.tag]
    cases inner with
    | nil => rfl
    | cons f fs =>
      by_cases h : tag.name.base = name
      · simp [closesIn, located, Piece.closes?, h, extent]
      · simp [closesIn, located, Piece.closes?, h]

theorem closesIn_piecesOf_cons (name : Run isTagChar) (start : Nat) (e : Element)
    (es : List Element) :
    closesIn name start (piecesOf (e :: es)) =
      closesIn name (start + extent e.head) (piecesOf e.children) ++
        (closesIn name (start + extent e.head + extent (piecesOf e.children)) e.foot ++
          closesIn name (start + extent e.pieces) (piecesOf es)) := by
  have hhead : closesIn name start e.head = [] := by
    cases e with
    | node tag inside inner after => cases inner <;> rfl
  have hblanks : ∀ offset, closesIn name offset [Piece.blanks e.after] = [] := fun _ => rfl
  have hlength : extent [Piece.blanks e.after] = e.after.list.length := by
    simp [extent, Piece.text]
  rw [piecesOf_cons, ← List.singleton_append, closesIn_append, closesIn_append, hblanks, span,
    closesIn_append, closesIn_append, hhead, extent_pieces, hlength, span, extent_append]
  simp only [List.nil_append, List.append_assoc, Nat.add_assoc]

/-- Elements of other names have closing tags of other names. -/
theorem closesIn_eq_nil {es : List Element} (h : ∀ e ∈ withInnerOf es, e.tag.name.base ≠ name)
    (start : Nat) : closesIn name start (piecesOf es) = [] := by
  induction es using forest_induction generalizing start with
  | nil => rfl
  | cons e es hchildren hes =>
    rw [withInnerOf_cons] at h
    obtain ⟨hself, h⟩ := List.forall_mem_cons.mp h
    obtain ⟨hinner, hrest⟩ := List.forall_mem_append.mp h
    rw [closesIn_piecesOf_cons, hchildren hinner, hes hrest, closesIn_foot,
      if_neg fun hfoot => hself hfoot.2]
    rfl

variable {around : List Element} {start : Nat} {es : List Element} {x : Site}

/-- The first closing tag of a name behind the opening tag of an element that contains no element
of its name is its own. -/
theorem find?_closesIn (hx : x ∈ sitesOf around start es)
    (hopen : x.element.children.isEmpty = false)
    (hinner : ∀ e ∈ x.element.inner, e.tag.name.base ≠ x.element.tag.name.base) :
    ∃ c, (closesIn x.element.tag.name.base start (piecesOf es)).find?
      (fun c => x.tag.toTag.stop ≤ c.1) = some (c, x.stop) := by
  induction es using forest_induction generalizing around start with
  | nil => cases hx
  | cons e es hchildren hes =>
    rw [sitesOf_cons, List.mem_cons, List.mem_append] at hx
    rw [closesIn_piecesOf_cons]
    rcases hx with rfl | hx | hx
    · have hclosing : !e.children.isEmpty ∧ e.tag.name.base = e.tag.name.base := by
        simp [hopen]
      have htag : (Site.tag ⟨e, around, start⟩).toTag.stop ≤
          start + extent e.head + extent (piecesOf e.children) := by
        have hhead := e.extent_head
        simp only [Site.tag, PlacedTag.toTag]
        omega
      have hstop : start + extent e.head + extent (piecesOf e.children) + extent e.foot =
          Site.stop ⟨e, around, start⟩ := by
        have hspan := e.extent_span
        rw [Site.stop]
        dsimp only
        omega
      refine ⟨start + extent e.head + extent (piecesOf e.children), ?_⟩
      rw [closesIn_eq_nil hinner, closesIn_foot, if_pos hclosing, List.nil_append,
        List.singleton_append, hstop]
      exact List.find?_cons_of_pos (decide_eq_true htag)
    · obtain ⟨c, hc⟩ := hchildren hx
      exact ⟨c, by rw [List.find?_append, hc, Option.some_or]⟩
    · -- The closing tags of the first element and in it stand before the opening tag.
      have hbounds := bounds_of_mem_rest hx
      have hpieces := e.extent_pieces
      have hspan := e.extent_span
      have htag : x.start ≤ x.tag.toTag.stop := Nat.le_add_right _ _
      have hskip : ∀ c ∈ closesIn x.element.tag.name.base (start + extent e.head)
            (piecesOf e.children) ++ closesIn x.element.tag.name.base
              (start + extent e.head + extent (piecesOf e.children)) e.foot,
          ¬ decide (x.tag.toTag.stop ≤ c.1) = true := by
        intro c hc
        rw [decide_eq_true_eq]
        rcases List.mem_append.mp hc with hc | hc
        · have hclose := bounds_of_mem_closesIn hc
          omega
        · have hclose := bounds_of_mem_closesIn hc
          omega
      obtain ⟨c, hc⟩ := hes hx
      refine ⟨c, ?_⟩
      rw [← List.append_assoc, List.find?_append, List.find?_eq_none.mpr hskip, Option.none_or, hc]

end Element

/-- The attributes of an element, the first of each name. -/
def Element.attributes (e : Element) : Attributes :=
  firsts (·.1) ((e.tag.first :: e.tag.more).map Attribute.pair)

/-- The name of an element without its scope. -/
def Element.localName (e : Element) : String :=
  String.ofList e.tag.name.base.list

theorem Element.localName_eq {e : Element} {name : Run isTagChar} :
    e.localName = String.ofList name.list ↔ e.tag.name.base = name := by
  rw [localName, Run.ofList_inj]

/-- What reading an element at its place gives. -/
def Site.placed (x : Site) : Placed Attributes :=
  { value := x.element.attributes, start := x.start, stop := x.stop }

namespace Document

/-- No element of the name contains another. -/
def Flat (d : Document) (name : String) : Prop :=
  ∀ e ∈ d.elements, e.localName = name → ∀ f ∈ e.inner, f.localName ≠ name

instance (d : Document) (name : String) : Decidable (d.Flat name) :=
  inferInstanceAs (Decidable (∀ e ∈ d.elements, _))

variable {d : Document}

theorem map_element_sites (d : Document) : d.sites.map (·.element) = d.elements :=
  Element.map_element_sitesOf _ _ _

theorem openTags_eq (d : Document) : d.openTags = d.sites.map Site.tag := by
  have hpieces : d.openTags = placedTags 0 ([.blanks d.before] ++ Element.piecesOf d.roots) := rfl
  rw [hpieces, placedTags_append, Element.placedTags_piecesOf []]
  simp [extent, Piece.text, sites, placedTags, located, Piece.placed?]

/-- The scan for a name gives the elements of the name, as they stand in the document. -/
theorem scanTags_sites (name : Run isTagChar) (d : Document) :
    scanTags (String.ofList name.list) d.text =
      .ok ((d.sites.filter (·.element.localName == String.ofList name.list)).map
        (·.tag.toTag)) := by
  rw [scanTags_openTags, openTags_eq, List.filter_map, List.map_map]
  refine congrArg (Except.ok ∘ List.map _) (List.filter_congr fun x _ => ?_)
  rw [Bool.eq_iff_iff, Function.comp_apply, decide_eq_true_eq, beq_iff_eq, Element.localName_eq]
  rfl

theorem elementStop_tag (name : Run isTagChar) (hflat : d.Flat (String.ofList name.list))
    {x : Site} (hx : x ∈ d.sites) (hname : x.element.tag.name.base = name) :
    x.tag.toTag.elementStop (scanCloses (String.ofList name.list) d.text) = x.stop := by
  rw [Tag.elementStop]
  cases hclosed : x.element.children.isEmpty with
  | true =>
    have hself : x.tag.toTag.selfClosing = true := hclosed
    have hspan : x.element.span = [.opening x.element.tag true] := by
      cases he : x.element with
      | node tag inside inner after =>
        rw [he, Element.children] at hclosed
        obtain rfl := List.isEmpty_iff.mp hclosed
        rfl
    rw [if_pos hself, Site.stop, hspan]
    simp [Site.tag, PlacedTag.toTag, hclosed, extent, Piece.text]
  | false =>
    have hself : ¬ x.tag.toTag.selfClosing = true := by simp [Site.tag, PlacedTag.toTag, hclosed]
    have hmem : x.element ∈ d.elements := by
      rw [← map_element_sites]
      exact List.mem_map_of_mem hx
    have hinner : ∀ e ∈ x.element.inner, e.tag.name.base ≠ x.element.tag.name.base := by
      intro e he heq
      exact hflat _ hmem (Element.localName_eq.mpr hname) e he
        (Element.localName_eq.mpr (heq.trans hname))
    have hcloses : scanCloses (String.ofList name.list) d.text =
        closesIn x.element.tag.name.base d.before.list.length (Element.piecesOf d.roots) := by
      have hpieces : d.pieces = [.blanks d.before] ++ Element.piecesOf d.roots := rfl
      rw [scanCloses_text, hpieces, closesIn_append, hname]
      simp [closesIn, located, Piece.closes?, extent, Piece.text]
    obtain ⟨c, hc⟩ := Element.find?_closesIn hx hclosed hinner
    rw [if_neg hself, hcloses]
    exact congrArg (fun found => (found.map Prod.snd).getD x.tag.toTag.stop) hc

/-- The elements of a name are read with the spans that they have, if none contains another. -/
theorem elementsOf_text (name : Run isTagChar) (hflat : d.Flat (String.ofList name.list)) :
    elementsOf (String.ofList name.list) d.text =
      .ok ((d.sites.filter (·.element.localName == String.ofList name.list)).map Site.placed) := by
  refine bind_eq_ok.mpr ⟨_, scanTags_sites name d, congrArg Except.ok ?_⟩
  rw [List.map_map]
  refine List.map_congr_left fun x hx => ?_
  obtain ⟨hx, hname⟩ := List.mem_filter.mp hx
  have hstop := elementStop_tag name hflat hx (Element.localName_eq.mp (beq_iff_eq.mp hname))
  rw [Function.comp_apply, hstop]
  rfl

end Document

end Formwork.Form
