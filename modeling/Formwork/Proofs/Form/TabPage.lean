import Mathlib.Data.List.Basic
import Formwork.Form.Reader
import Formwork.Proofs.Classes
import Formwork.Proofs.Form.Legible
import Formwork.Proofs.Form.Scan
import Formwork.Proofs.Text.Match

/-!
# Tab pages and their canvases

A tab page belongs to the canvas that is opened last before it. Tags are found in the order of their
offsets, so that a later page never has an earlier canvas than the page before it: the pages of the
canvases, one canvas after the other, are all pages in the order of the document, less those in
front of the first canvas. This holds of every text, however broken, and whatever the canvases are
called.
-/
namespace Formwork.Form

open Text.Match

theorem pairwise_start_scanTags {tag : String} {document : List Char} {tags : List Tag}
    (h : scanTags tag document = .ok tags) : tags.Pairwise (fun s t => s.start < t.start) := by
  have hstarts : tags.map (·.start) = (writtenTags tag document).map (·.start) := by
    refine map_of_mapM h fun found _ t ht => ?_
    obtain ⟨a, -, rfl⟩ := map_eq_ok.mp ht
    rfl
  rw [← List.pairwise_map (f := Tag.start), hstarts, List.pairwise_map]
  exact (pairwise_start_findFrom 0 none document).1

/-- Whether an offset comes before all tags. -/
def isBeforeAll (tags : List Tag) (offset : Nat) : Bool :=
  tags.all (fun t => offset ≤ t.start)

/-- Whether the tag at a position is the last one that starts before an offset. -/
def isLastBefore (tags : List Tag) (offset i : Nat) : Bool :=
  tags[i]?.any (fun t => t.start < offset) && isBeforeAll (tags.drop (i + 1)) offset

/-- The tab page of a tag, on the canvas of a name. -/
def TabPage.ofTag (canvas : String) (t : Tag) : TabPage where
  name := t.attributes.text "Name"
  label := t.attributes.text "Label"
  canvas
  attributes := t.attributes

section Owner

variable {canvases : List (Nat × Canvas)} {offset i : Nat}

theorem ownerOf_concat (canvases : List (Nat × Canvas)) (c : Nat × Canvas) (offset : Nat) :
    ownerOf (canvases ++ [c]) offset =
      if c.1 < offset then some canvases.length else ownerOf canvases offset := by
  rw [ownerOf, List.zipIdx_append, List.filter_append]
  split
  · next h => simp [h]
  · next h => simp [h, ownerOf]

/-- The owner is the last of the canvases that start before the offset. -/
theorem ownerOf_eq_some : ownerOf canvases offset = some i ↔
    (∃ c, canvases[i]? = some c ∧ c.1 < offset) ∧
      ∀ c ∈ canvases.drop (i + 1), offset ≤ c.1 := by
  induction canvases using List.reverseRecOn with
  | nil => simp [ownerOf]
  | append_singleton canvases c ih =>
    rw [ownerOf_concat]
    split
    · next h =>
      constructor
      · intro heq
        obtain rfl := Option.some.inj heq
        exact ⟨⟨c, by simp, h⟩, by simp⟩
      · rintro ⟨⟨d, hd, -⟩, hlast⟩
        have hle : i ≤ canvases.length := by
          have hlt := (List.getElem?_eq_some_iff.mp hd).1
          rw [List.length_append, List.length_singleton] at hlt
          omega
        rcases Nat.lt_or_eq_of_le hle with hlt | rfl
        · have hc := hlast c (by rw [List.drop_append_of_le_length hlt]; simp)
          omega
        · rfl
    · next h =>
      rw [ih]
      constructor
      · rintro ⟨⟨d, hd, hd'⟩, hlast⟩
        have hlt := (List.getElem?_eq_some_iff.mp hd).1
        refine ⟨⟨d, by rw [List.getElem?_append_left hlt, hd], hd'⟩, ?_⟩
        rw [List.drop_append_of_le_length hlt, List.forall_mem_append]
        exact ⟨hlast, List.forall_mem_singleton.mpr (Nat.le_of_not_lt h)⟩
      · rintro ⟨⟨d, hd, hd'⟩, hlast⟩
        have hlt : i < canvases.length := by
          by_contra hge
          rw [List.getElem?_append_right (Nat.le_of_not_lt hge),
            List.getElem?_singleton] at hd
          split at hd
          · exact h (Option.some.inj hd ▸ hd')
          · cases hd
        rw [List.getElem?_append_left hlt] at hd
        rw [List.drop_append_of_le_length hlt, List.forall_mem_append] at hlast
        exact ⟨⟨d, hd, hd'⟩, hlast.1⟩

theorem ownerOf_eq_none : ownerOf canvases offset = none ↔ ∀ c ∈ canvases, offset ≤ c.1 := by
  induction canvases using List.reverseRecOn with
  | nil => simp [ownerOf]
  | append_singleton canvases c ih =>
    rw [ownerOf_concat, List.forall_mem_append, List.forall_mem_singleton]
    split
    · next h => simp [h]
    · next h => rw [ih, and_iff_left (Nat.le_of_not_lt h)]

/-- Where an owner stands: no owner before the first canvas. -/
def rankOf (owner : Option Nat) : Nat :=
  owner.elim 0 (· + 1)

theorem rankOf_ownerOf_le (canvases : List (Nat × Canvas)) (offset : Nat) :
    rankOf (ownerOf canvases offset) ≤ canvases.length := by
  cases howner : ownerOf canvases offset with
  | none => exact Nat.zero_le _
  | some i =>
    obtain ⟨⟨c, hc, -⟩, -⟩ := ownerOf_eq_some.mp howner
    exact (List.getElem?_eq_some_iff.mp hc).1

/-- A later place has no earlier owner. -/
theorem rankOf_ownerOf_mono (canvases : List (Nat × Canvas)) {a b : Nat} (h : a ≤ b) :
    rankOf (ownerOf canvases a) ≤ rankOf (ownerOf canvases b) := by
  induction canvases using List.reverseRecOn with
  | nil => exact Nat.le_refl _
  | append_singleton canvases c ih =>
    have hlast := rankOf_ownerOf_le canvases a
    rw [ownerOf_concat, ownerOf_concat]
    -- A canvas that is opened before `a` is opened before `b`.
    split
    · next ha => rw [if_pos (Nat.lt_of_lt_of_le ha h)]
    · split
      · exact Nat.le_succ_of_le hlast
      · exact ih

end Owner

/-! ## Pages -/

section Pages

variable {opened tags : List Tag}

theorem ownerOf_canvasesOf_eq_some {offset i : Nat} :
    ownerOf (canvasesOf opened) offset = some i ↔ isLastBefore opened offset i = true := by
  rw [ownerOf_eq_some, canvasesOf, isLastBefore, Bool.and_eq_true, isBeforeAll, List.all_eq_true,
    ← List.map_drop, List.forall_mem_map, List.getElem?_map]
  simp only [decide_eq_true_eq]
  refine and_congr_left fun _ => ?_
  cases opened[i]? with
  | none => simp
  | some t => simp

theorem ownerOf_canvasesOf_eq_none {offset : Nat} :
    ownerOf (canvasesOf opened) offset = none ↔ isBeforeAll opened offset = true := by
  rw [ownerOf_eq_none, canvasesOf, List.forall_mem_map, isBeforeAll, List.all_eq_true]
  simp only [decide_eq_true_eq]

/-- The pages of an owner carry the name of its canvas. -/
theorem map_filter_tabPagesOf {canvases : List (Nat × Canvas)} {owner : Option Nat} {name : String}
    (hname : ((owner.bind (canvases[·]?)).map (·.2.name)).getD "" = name) :
    ((tabPagesOf canvases tags).filter (fun p => p.1 == owner)).map (·.2) =
      (tags.filter (fun t => ownerOf canvases t.start == owner)).map (TabPage.ofTag name) := by
  rw [tabPagesOf, List.filter_map, List.map_map]
  refine List.map_congr_left fun t ht => ?_
  obtain rfl := beq_iff_eq.mp (List.mem_filter.mp ht).2
  rw [← hname]
  rfl

theorem pairwise_rank_tabPagesOf (canvases : List (Nat × Canvas))
    (hpages : tags.Pairwise (fun s t => s.start < t.start)) :
    (tabPagesOf canvases tags).Pairwise (fun p q => rankOf p.1 ≤ rankOf q.1) := by
  rw [tabPagesOf, List.pairwise_map]
  exact hpages.imp fun h => rankOf_ownerOf_mono canvases (Nat.le_of_lt h)

theorem rankOf_beq (owner : Option Nat) (i : Nat) :
    (rankOf owner == 0) = (owner == none) ∧ (rankOf owner == i + 1) = (owner == some i) := by
  cases owner with
  | none => exact ⟨rfl, rfl⟩
  | some j =>
    have hsucc : (j + 1 == i + 1) = (j == i) := by
      rw [Bool.eq_iff_iff, beq_iff_eq, beq_iff_eq, Nat.add_right_cancel_iff]
    exact ⟨rfl, hsucc⟩

/-- The pages are those without a canvas and then those of one canvas after the other. -/
theorem tabPagesOf_divided (canvases : List (Nat × Canvas))
    (hpages : tags.Pairwise (fun s t => s.start < t.start)) :
    tabPagesOf canvases tags =
      (tabPagesOf canvases tags).filter (fun p => p.1 == none) ++
        (List.range canvases.length).flatMap (fun i =>
          (tabPagesOf canvases tags).filter (fun p => p.1 == some i)) := by
  have hbound : ∀ p ∈ tabPagesOf canvases tags, rankOf p.1 < canvases.length + 1 := by
    rw [tabPagesOf, List.forall_mem_map]
    exact fun t _ => Nat.lt_succ_of_le (rankOf_ownerOf_le canvases t.start)
  have hdivide := flatMap_filter_key (pairwise_rank_tabPagesOf canvases hpages) hbound
  rw [List.range_succ_eq_map, List.flatMap_cons, List.flatMap_map] at hdivide
  simp only [rankOf_beq _ 0, (rankOf_beq _ _).2] at hdivide
  exact hdivide.symm

theorem tabPages_sharePages {i : Nat} {c : Canvas} (h : (sharePages opened tags).1[i]? = some c) :
    c.tabPages =
      (tags.filter (fun t => isLastBefore opened t.start i)).map (TabPage.ofTag c.name) := by
  rw [sharePages, List.getElem?_map, List.getElem?_zipIdx, Option.map_map, Nat.zero_add] at h
  obtain ⟨canvas, hcanvas, rfl⟩ := Option.map_eq_some_iff.mp h
  have hname : (((some i).bind ((canvasesOf opened)[·]?)).map (·.2.name)).getD "" =
      canvas.2.name := by
    rw [Option.bind_some, hcanvas]
    rfl
  refine (map_filter_tabPagesOf hname).trans (congrArg _ (List.filter_congr fun t _ => ?_))
  rw [Bool.eq_iff_iff, beq_iff_eq]
  exact ownerOf_canvasesOf_eq_some

/-- The pages without a canvas, and then the pages of one canvas after the other. -/
theorem sharePages_divided (opened : List Tag)
    (hpages : tags.Pairwise (fun s t => s.start < t.start)) : (sharePages opened tags).2 =
      (tags.filter (fun t => isBeforeAll opened t.start)).map (TabPage.ofTag "") ++
        (sharePages opened tags).1.flatMap (·.tabPages) := by
  have hlists : (sharePages opened tags).1.flatMap (·.tabPages) =
      ((List.range (canvasesOf opened).length).flatMap (fun i =>
        (tabPagesOf (canvasesOf opened) tags).filter (fun p => p.1 == some i))).map (·.2) := by
    rw [sharePages, List.flatMap_map, List.range_eq_range', ← List.zipIdx_map_snd,
      List.flatMap_map, List.map_flatMap]
  have hloose : (tags.filter (fun t => isBeforeAll opened t.start)).map (TabPage.ofTag "") =
      ((tabPagesOf (canvasesOf opened) tags).filter (fun p => p.1 == none)).map (·.2) := by
    rw [map_filter_tabPagesOf rfl]
    refine congrArg _ (List.filter_congr fun t _ => ?_)
    rw [Bool.eq_iff_iff, beq_iff_eq]
    exact ownerOf_canvasesOf_eq_none.symm
  rw [hlists, hloose, ← List.map_append, ← tabPagesOf_divided _ hpages]
  rfl

/-- A page behind a canvas has one owner. -/
theorem existsUnique_isLastBefore {offset : Nat} (h : isBeforeAll opened offset = false) :
    ∃! i, isLastBefore opened offset i = true := by
  simp only [← ownerOf_canvasesOf_eq_some]
  cases howner : ownerOf (canvasesOf opened) offset with
  | none =>
    rw [ownerOf_canvasesOf_eq_none.mp howner] at h
    cases h
  | some i => exact ⟨i, rfl, fun j hj => (Option.some.inj hj).symm⟩

end Pages

/-! ## Values as they are written -/

/-- A text that is one tag is legible if the attributes of the tag are. -/
theorem legibleAttributes_of_tag (name : Run isTagChar) (gap : Run Text.isBlank) {c : Char}
    {cs : List Char} (hc : Text.isBlank c = false) (hend : '>' ∉ c :: cs)
    (h : LegibleTags (String.ofList name.list)
      ('<' :: (name.list ++ (gap.list ++ (c :: cs ++ ['>']))))) :
    LegibleAttributes (attributeText (c :: cs)) := by
  obtain ⟨b, bs, hgap⟩ := List.exists_cons_of_ne_nil gap.ne_nil
  have hb : Text.isBlank b = true := gap.all b (hgap ▸ List.mem_cons_self)
  have hopen : openTag? name.list ('<' :: (name.list ++ (gap.list ++ (c :: cs ++ ['>'])))) =
      some (c :: cs, []) := by
    have hname := afterTagName?_text (fun _ cs h => tagBody?_cons h cs) name ⟨none, name⟩
      (endsName_of_isBlank hb) (bs ++ (c :: cs ++ ['>']))
    rw [if_pos rfl, ← List.cons_append, ← hgap, tagBody?_text gap hc hend] at hname
    exact hname
  have hmem : c :: cs ∈ (writtenTags (String.ofList name.list)
      ('<' :: (name.list ++ (gap.list ++ (c :: cs ++ ['>']))))).map (·.value) := by
    rw [writtenTags, String.toList_ofList, ← readings,
      readings_whole (List.cons_ne_nil _ _) hopen]
    exact List.mem_singleton_self _
  obtain ⟨found, hfound, hvalue⟩ := List.mem_map.mp hmem
  exact hvalue ▸ h found hfound

/-- An attribute is legible if its value is, as it is written. -/
theorem legible_of_attribute (key : Name isAttributeChar isAttributeChar) {value : List Char}
    (hquote : '\x22' ∉ value)
    (h : LegibleAttributes (key.text ++ '=' :: '\x22' :: (value ++ ['\x22']))) :
    Text.Legible value := by
  have hwritten : writtenAttributes (key.text ++ '=' :: '\x22' :: (value ++ ['\x22'])) =
      [(String.ofList key.text, String.ofList value)] := by
    rw [writtenAttributes_eq, readings_whole (by simp) (attribute?_text key hquote [])]
    rfl
  have hlegible := h _ (hwritten ▸ List.mem_singleton_self _)
  rwa [String.toList_ofList] at hlegible

/-- A document that is a canvas with a name is legible if the name is, as it is written. -/
theorem legible_of_canvas {value : List Char} (hquote : '\x22' ∉ value) (hend : '>' ∉ value)
    (h : LegibleTags "Canvas" ("<Canvas Name=\x22".toList ++ (value ++ ['\x22', '>']))) :
    Text.Legible value := by
  have hbody : '>' ∉ 'N' :: ('a' :: 'm' :: 'e' :: '=' :: '\x22' :: value ++ ['\x22']) := by
    simp [hend]
  have htext (cs : List Char) : attributeText (cs ++ ['\x22']) = cs ++ ['\x22'] := by
    simp [attributeText, closesItself]
  have hattributes := legibleAttributes_of_tag (Run.of "Canvas".toList (by decide))
    (Run.of [' '] (by decide)) (by decide) hbody (by simpa [Run.of] using h)
  rw [← List.cons_append, htext] at hattributes
  exact legible_of_attribute ⟨none, Run.of "Name".toList (by decide)⟩ hquote hattributes

/-- **Tab pages are shared out without loss.** Canvases and tab pages are read of every text, unless
an attribute of a tag of either has a decimal reference of more digits than are read. They are read
in the order of their tags. The tab pages are those in front of all canvases, which name none, and
then those of one canvas after the other. A canvas has the pages before whose tags its own tag is
the last one of a canvas, in order and with its name; every page that is not in front of all
canvases has one such canvas, whatever canvases have the same name. -/
theorem surfacesOf_shares (document : List Char) :
    OkIff (surfacesOf document)
      (LegibleTags "Canvas" document ∧ LegibleTags "TabPage" document) ∧
    ∀ canvases pages, surfacesOf document = .ok (canvases, pages) →
      ∃ opened tags, scanTags "Canvas" document = .ok opened ∧
        scanTags "TabPage" document = .ok tags ∧
        opened.Pairwise (fun s t => s.start < t.start) ∧
        tags.Pairwise (fun s t => s.start < t.start) ∧
        canvases.map (fun c => (c.name, c.attributes)) =
          opened.map (fun t => (t.attributes.text "Name", t.attributes)) ∧
        pages.map (fun p => (p.name, p.label, p.attributes)) =
          tags.map (fun t => (t.attributes.text "Name", t.attributes.text "Label", t.attributes)) ∧
        pages = (tags.filter (fun t => isBeforeAll opened t.start)).map (TabPage.ofTag "") ++
          canvases.flatMap (·.tabPages) ∧
        (∀ i c, canvases[i]? = some c → c.tabPages =
          (tags.filter (fun t => isLastBefore opened t.start i)).map (TabPage.ofTag c.name)) ∧
        ∀ t ∈ tags, isBeforeAll opened t.start = false →
          ∃! i, isLastBefore opened t.start i = true := by
  refine ⟨okIff_surfacesOf document, fun canvases pages h => ?_⟩
  obtain ⟨opened, hopened, h⟩ := bind_eq_ok.mp h
  obtain ⟨tags, htags, h⟩ := bind_eq_ok.mp h
  obtain ⟨rfl, rfl⟩ : (sharePages opened tags).1 = canvases ∧ (sharePages opened tags).2 = pages :=
    Prod.ext_iff.mp (Except.ok.inj h)
  have hpages := pairwise_start_scanTags htags
  refine ⟨opened, tags, hopened, htags, pairwise_start_scanTags hopened, hpages, ?_, ?_,
    sharePages_divided opened hpages, fun i c hc => tabPages_sharePages hc, fun t _ hbehind => ?_⟩
  · calc (sharePages opened tags).1.map (fun c => (c.name, c.attributes))
        = ((canvasesOf opened).zipIdx.map (·.1)).map (fun c => (c.2.name, c.2.attributes)) := by
          rw [sharePages, List.map_map, List.map_map]
          rfl
      _ = opened.map (fun t => (t.attributes.text "Name", t.attributes)) := by
          rw [List.zipIdx_map_fst, canvasesOf, List.map_map]
          rfl
  · rw [sharePages, tabPagesOf, List.map_map, List.map_map]
    rfl
  · exact existsUnique_isLastBefore hbehind

/-- A canvas is not read whose name has a reference of too many digits, zeros or not. -/
theorem surfacesOf_overlong :
    let value := '&' :: '#' :: (List.replicate (integerDigitLimit + 1) '0' ++ ['6', '5', ';'])
    surfacesOf ("<Canvas Name=\x22".toList ++ (value ++ ['\x22', '>'])) = .error .overlong := by
  intro value
  have hchars : ∀ c ∈ value, c ∈ ['&', '#', '0', '6', '5', ';'] := by
    intro c hc
    simp only [value, List.mem_cons, List.mem_append, List.mem_replicate] at hc ⊢
    tauto
  refine (okIff_surfacesOf _).overlong fun h => ?_
  have hlegible := legible_of_canvas (fun hquote => absurd (hchars _ hquote) (by decide))
    (fun hend => absurd (hchars _ hend) (by decide)) h.1
  have hlimit := (Text.legible_cons.mp hlegible).1 rfl (List.replicate (integerDigitLimit + 1) '0')
    ['6', '5', ';'] rfl fun c hc => List.eq_of_mem_replicate hc ▸ by decide
  rw [isOverlong, List.length_replicate] at hlimit
  simp at hlimit

end Formwork.Form
