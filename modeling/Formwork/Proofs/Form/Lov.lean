import Mathlib.Data.List.Basic
import Formwork.Form.Reader
import Formwork.Proofs.Classes
import Formwork.Proofs.Form.Content
import Formwork.Proofs.Form.Legible
import Formwork.Proofs.Form.Lookup

/-!
# Lists of values

Lists of values are read in two passes: first those with a closing tag, each up to the first closing
tag behind its opening tag, and then those that close themselves. Where no list of values contains
another, the first closing tag is the own one, so that each list has the columns that stand in it.
-/
namespace Formwork.Form

open Text.Match

def lovName : Run isTagChar := Run.of ['L', 'O', 'V'] (by decide)

def columnName : Run isTagChar := Run.of "LOVColumnMapping".toList (by decide)

namespace Tagged

def isLov (x : Tagged) : Bool :=
  x.localName == "LOV"

/-- The elements in an element, in document order. -/
def inner (x : Tagged) : List Tagged :=
  (x.content.getD .nil).elements

/-- The named columns in an element. -/
def columns (x : Tagged) : List Tagged :=
  x.inner.filter (fun y => y.localName == "LOVColumnMapping" && y.givenName != "")

/-- The column of a list of values that an element describes, of whatever width. -/
def column (x : Tagged) : LovColumn where
  name := x.givenName
  title := x.attributes.text "Title"
  returnItem := x.attributes.text "ReturnItem"
  displayWidth := (Attributes.leadingInteger? (x.attributes.text "DisplayWidth")).getD 0

/-- The list of values that an element describes, with the columns that stand in it. -/
def lov (x : Tagged) : Lov :=
  Lov.ofAttributes x.attributes (x.columns.map column)

/-- Read the column of an element. -/
def readColumn (x : Tagged) : Except Error LovColumn :=
  LovColumn.ofAttributes x.attributes

/-- Read the list of values of an element. -/
def readLov (x : Tagged) : Except Error Lov := do
  let columns ← x.columns.mapM readColumn
  .ok (Lov.ofAttributes x.attributes columns)

theorem okIff_readColumn (x : Tagged) :
    OkIff x.readColumn (x.attributes.InLimit "DisplayWidth") :=
  (okIff_integer x.attributes "DisplayWidth" 0).bind_ok _

theorem eq_column {x : Tagged} {column : LovColumn} (h : x.readColumn = .ok column) :
    column = x.column := by
  obtain ⟨width, hwidth, h⟩ := bind_eq_ok.mp h
  obtain rfl := Except.ok.inj h
  rw [column, ← eq_of_integer hwidth]
  rfl

theorem okIff_readLov (x : Tagged) :
    OkIff x.readLov (∀ y ∈ x.columns, y.attributes.InLimit "DisplayWidth") :=
  OkIff.bind_ok (.mapM fun y _ => y.okIff_readColumn) _

theorem eq_lov {x : Tagged} {lov : Lov} (h : x.readLov = .ok lov) : lov = x.lov := by
  obtain ⟨columns, hcolumns, h⟩ := bind_eq_ok.mp h
  obtain rfl := Except.ok.inj h
  have hmap := map_of_mapM (g := id) hcolumns fun y _ column hy => eq_column hy
  rw [List.map_id] at hmap
  rw [lov, hmap]

theorem isLov_iff {x : Tagged} : x.isLov = true ↔ x.tag.name.base = lovName := by
  rw [isLov, beq_iff_eq]
  show x.localName = String.ofList lovName.list ↔ x.tag.name.base = lovName
  exact localName_eq

end Tagged

namespace Content

/-- No list of values contains another. -/
def LovsApart (c : Content) : Prop :=
  ∀ x ∈ c.elements, x.isLov → ∀ y ∈ x.inner, !y.isLov

instance (c : Content) : Decidable c.LovsApart :=
  inferInstanceAs (Decidable (∀ x ∈ c.elements, _))

/-! ## The end of a list of values -/

section Close

variable {pre rest : List Char}

theorem passes_closeTag?_text (cs : Chars (· != '<')) :
    Passes (closeTag? lovName.list tagEnd?) cs.list :=
  fun _ hne ht => closeTag?_suffix (notMem_text cs) hne ht

theorem passes_closeTag?_piece {p : Piece} (h : p.closes? lovName = none) :
    Passes (closeTag? lovName.list tagEnd?) p.text :=
  fun _ hne ht => closeTag?_eq_none_of_closes? readsEnd_tagEnd? h hne ht

/-- Without lists of values in it a content has no closing tag of one. -/
theorem passes_closeTag?_print {c : Content} (h : ∀ x ∈ c.elements, !x.isLov) :
    Passes (closeTag? lovName.list tagEnd?) c.print := by
  induction c with
  | nil => exact passes_nil
  | text cs more ih => exact (passes_closeTag?_text cs).append (ih h)
  | empty tag more ih =>
    have hopening : Passes _ (tag.text true) :=
      passes_closeTag?_piece (p := .opening tag true) rfl
    exact hopening.append (ih (List.forall_mem_cons.mp h).2)
  | full tag content more hcontent hmore =>
    obtain ⟨hself, h⟩ := List.forall_mem_cons.mp h
    obtain ⟨hinner, hrest⟩ := List.forall_mem_append.mp h
    have hother : (Piece.closing tag.name).closes? lovName = none := by
      refine if_neg fun hname => ?_
      rw [Tagged.isLov_iff.mpr hname] at hself
      cases hself
    have hopening : Passes _ (tag.text false) :=
      passes_closeTag?_piece (p := .opening tag false) rfl
    exact hopening.append
      ((hcontent hinner).append ((passes_closeTag?_piece hother).append (hmore hrest)))

theorem untilLovClose?_append (h : Passes (closeTag? lovName.list tagEnd?) pre)
    (rest : List Char) : untilLovClose? (pre ++ rest) =
      (untilLovClose? rest).map (fun found => (pre ++ found.1, found.2)) := by
  induction pre with
  | nil => simp
  | cons c pre ih =>
    have hfail : closeTag? "LOV".toList tagEnd? (c :: (pre ++ rest)) = none :=
      h (c :: pre) (List.cons_ne_nil c pre) (List.suffix_refl _) rest
    have hpre : Passes (closeTag? lovName.list tagEnd?) pre :=
      fun t hne ht => h t hne (ht.trans (List.suffix_cons c pre))
    rw [List.cons_append, untilLovClose?, hfail]
    dsimp only
    rw [ih hpre, Option.map_map]
    rfl

theorem untilLovClose?_closing {n : Name isPrefixChar isTagChar} (h : n.base = lovName)
    (rest : List Char) : untilLovClose? ((Piece.closing n).text ++ rest) = some ([], rest) := by
  have hword : "LOV".toList = lovName.list := by decide
  have hclose := closeTag?_text readsEnd_tagEnd? lovName n rest
  rw [if_pos (congrArg (·.list) h)] at hclose
  have htext : (Piece.closing n).text ++ rest = '<' :: ('/' :: (n.text ++ ['>']) ++ rest) := rfl
  rw [htext] at hclose ⊢
  rw [untilLovClose?, hword, hclose]

/-- A list of values without others in it reaches to its own closing tag. -/
theorem untilLovClose?_print {c : Content} (h : ∀ x ∈ c.elements, !x.isLov)
    {n : Name isPrefixChar isTagChar} (hn : n.base = lovName) (rest : List Char) :
    untilLovClose? (c.print ++ ((Piece.closing n).text ++ rest)) = some (c.print, rest) := by
  rw [untilLovClose?_append (passes_closeTag?_print h), untilLovClose?_closing hn, Option.map_some,
    List.append_nil]

end Close

/-! ## The first pass -/

/-- Where one reader finds nothing behind a name, one that fails where it fails finds nothing. -/
theorem afterTagName?_eq_none {α β : Type} {k : List Char → Option α} {k' : List Char → Option β}
    (hk : ∀ cs, k cs = none → k' cs = none) {w cs : List Char}
    (h : afterTagName? w cs k = none) : afterTagName? w cs k' = none := by
  have hbind : ∀ after, (afterWord? w after).bind k = none →
      (afterWord? w after).bind k' = none := by
    intro after hafter
    cases hword : afterWord? w after with
    | none => rfl
    | some rest =>
      rw [hword] at hafter
      exact hk rest hafter
  simp only [afterTagName?, Option.orElse_eq_orElse, Option.orElse_eq_or] at h ⊢
  split
  · next run after hspan =>
    rw [hspan] at h
    obtain ⟨hscoped, hplain⟩ := Option.or_eq_none_iff.mp h
    exact Option.or_eq_none_iff.mpr ⟨hbind after hscoped, hbind cs hplain⟩
  · next hspan =>
    split at h
    · next run after heq => exact absurd heq (hspan run after)
    · exact hbind cs h

theorem filledLov?_eq_none {cs : List Char} (h : openTag? lovName.list cs = none) :
    filledLov? cs = none := by
  unfold filledLov?
  split
  · next rest =>
    refine afterTagName?_eq_none (fun after hafter => ?_) h
    rw [hafter]
  · rfl

theorem filledLov?_opening {tag : OpenTag} (h : tag.name.base = lovName) (closed : Bool)
    (rest : List Char) : filledLov? (tag.text closed ++ rest) =
      if closed then none
      else (untilLovClose? rest).map (fun found => ((tag.body false, found.1), found.2)) := by
  have hword : "LOV".toList = lovName.list := by decide
  rw [tag.text_append, filledLov?, hword, afterTagName?_opening (fun c cs hc => ?_),
    if_pos (congrArg (·.list) h), tag.tagBody?_body]
  · dsimp only
    rw [tag.closesItself_body]
    cases closed <;> rfl
  · rw [tagBody?_cons hc]

theorem passes_filledLov? {pre : List Char} (h : Passes (openTag? lovName.list) pre) :
    Passes filledLov? pre :=
  fun t hne ht rest => filledLov?_eq_none (h t hne ht rest)

/-- The first pass begins neither with a list of values that closes itself nor with another
element. -/
theorem passes_filledLov?_opening {tag : OpenTag} {closed : Bool}
    (h : tag.name.base = lovName → closed = true) : Passes filledLov? (tag.text closed) := by
  by_cases hname : tag.name.base = lovName
  · intro t hne ht rest
    rcases List.suffix_cons_iff.mp ht with rfl | ht
    · exact (filledLov?_opening hname closed rest).trans (if_pos (h hname))
    · exact filledLov?_eq_none (openTag?_suffix (notMem_opening tag closed) hne ht rest)
  · exact passes_filledLov? (passes_openTag?_opening hname closed)

/-- The first pass reads the lists of values with a closing tag, each with what it contains. -/
theorem readings_filledLov?_print {c : Content} (hapart : c.LovsApart) (rest : List Char) :
    readings filledLov? (c.print ++ rest) =
      (c.elements.filter (fun x => x.isLov && x.content.isSome)).map
          (fun x => (x.tag.body false, (x.content.getD .nil).print)) ++
        readings filledLov? rest := by
  induction c generalizing rest with
  | nil => rfl
  | text cs more ih =>
    have htext := passes_filledLov? (passes_openTag?_text lovName cs)
    rw [print, List.append_assoc, htext.readings, ih hapart, elements]
  | empty tag more ih =>
    have hopening : Passes filledLov? (tag.text true) := passes_filledLov?_opening fun _ => rfl
    rw [print, List.append_assoc, hopening.readings,
      ih fun x hx => hapart x (List.mem_cons_of_mem _ hx), elements]
    simp
  | full tag content more hcontent hmore =>
    obtain ⟨hself, hapart⟩ := List.forall_mem_cons.mp hapart
    obtain ⟨hinner, hrest⟩ := List.forall_mem_append.mp hapart
    simp only [print, List.append_assoc]
    by_cases hname : tag.name.base = lovName
    · -- Nothing is read from the content, which is part of the match.
      have hlov : Tagged.isLov ⟨tag, some content⟩ = true := Tagged.isLov_iff.mpr hname
      have hself : ∀ x ∈ content.elements, !x.isLov := hself hlov
      have hnone : content.elements.filter (fun x => x.isLov && x.content.isSome) = [] := by
        refine List.filter_eq_nil_iff.mpr fun x hx h => ?_
        have hno := hself x hx
        rw [(Bool.and_eq_true_iff.mp h).1] at hno
        cases hno
      have hread : filledLov? (tag.text false ++ (content.print ++
          ((Piece.closing tag.name).text ++ (more.print ++ rest)))) =
            some ((tag.body false, content.print), more.print ++ rest) := by
        rw [filledLov?_opening hname, untilLovClose?_print hself hname]
        rfl
      rw [← List.append_assoc, ← List.append_assoc] at hread ⊢
      rw [readings_hit (by simp [OpenTag.text]) hread, hmore hrest, elements,
        List.filter_cons_of_pos (by simp [hlov]), List.filter_append, hnone]
      rfl
    · have hlov : ¬ Tagged.isLov ⟨tag, some content⟩ = true := mt Tagged.isLov_iff.mp hname
      have hopening : Passes filledLov? (tag.text false) :=
        passes_filledLov?_opening fun h => absurd h hname
      have hclosing := passes_filledLov? (passes_openTag?_closing lovName tag.name)
      rw [hopening.readings, hcontent hinner, hclosing.readings, hmore hrest, elements,
        List.filter_cons_of_neg (by simp [hlov]), List.filter_append, List.map_append,
        List.append_assoc]

/-! ## Both passes -/

/-- The named lists of values that have a closing tag. -/
def filledLovs (c : Content) : List Tagged :=
  c.elements.filter (fun x => x.isLov && x.content.isSome && x.givenName != "")

/-- The named lists of values that close themselves. -/
def emptyLovs (c : Content) : List Tagged :=
  c.elements.filter (fun x => x.isLov && x.content.isNone && x.givenName != "")

/-- Of the lists of values that close themselves the first of each name that no other one has. -/
def bareLovs (c : Content) : List Tagged :=
  firsts Tagged.givenName
    (c.emptyLovs.filter (fun x => !c.filledLovs.any (·.givenName == x.givenName)))

/-- The columns in a content are read from its named columns. -/
theorem lovColumnsOf_print (c : Content) :
    lovColumnsOf c.print = (c.elements.filter (fun y =>
      y.localName == "LOVColumnMapping" && y.givenName != "")).mapM Tagged.readColumn := by
  obtain ⟨tags, htags, hmap⟩ := map_eq_ok.mp (map_scanTags_print columnName c)
  have hname : "LOVColumnMapping" = String.ofList columnName.list := by decide
  have hattributes : tags.map (·.attributes) =
      (c.elements.filter (·.localName == "LOVColumnMapping")).map Tagged.attributes := by
    have hfirst := congrArg (List.map Prod.fst) hmap
    rw [List.map_map, List.map_map] at hfirst
    rw [hname]
    exact hfirst
  rw [← hname] at htags
  rw [lovColumnsOf, htags]
  show ((tags.map (·.attributes)).filter _).mapM LovColumn.ofAttributes = _
  rw [hattributes, List.filter_map, List.mapM_map, List.filter_filter]
  simp only [Function.comp_def, Bool.and_comm]
  rfl

/-- What is read of an element that the first pass finds. -/
theorem ofFilled?_print (x : Tagged) :
    Lov.ofFilled? (x.tag.body false) (x.content.getD .nil).print =
      if x.givenName == "" then .ok none else x.readLov.map some := by
  have hattributes : readAttributes (x.tag.body false) = .ok x.attributes :=
    readAttributes_body x.tag
  have hcolumns : lovColumnsOf (x.content.getD .nil).print = x.columns.mapM Tagged.readColumn :=
    lovColumnsOf_print _
  rw [Lov.ofFilled?, hattributes, hcolumns, ok_bind]
  split
  · next hname => rw [Tagged.givenName, if_pos hname]
  · next hname =>
    rw [Tagged.givenName, if_neg hname, Tagged.readLov, bind_ok_eq_map, bind_ok_eq_map]
    cases x.columns.mapM Tagged.readColumn <;> rfl

/-- The first pass gives the named lists of values with a closing tag. -/
theorem filledLovsOf_print {c : Content} (hapart : c.LovsApart) :
    filledLovsOf c.print = c.filledLovs.mapM Tagged.readLov := by
  have hread := readings_filledLov?_print hapart []
  rw [List.append_nil, readings_nil, List.append_nil] at hread
  have hfilled : (c.elements.filter (fun x => x.isLov && x.content.isSome)).filter
      (·.givenName != "") = c.filledLovs := by
    rw [List.filter_filter, filledLovs]
    simp only [Bool.and_comm]
  calc filledLovsOf c.print
      = ((readings filledLov? c.print).mapM (fun value => Lov.ofFilled? value.1 value.2)).map
          (·.filterMap id) := by
        rw [readings, List.mapM_map, filledLovsOf, bind_ok_eq_map]
        rfl
    _ = ((c.elements.filter (fun x => x.isLov && x.content.isSome)).mapM (fun x =>
          Lov.ofFilled? (x.tag.body false) (x.content.getD .nil).print)).map (·.filterMap id) := by
        rw [hread, List.mapM_map]
        rfl
    _ = c.filledLovs.mapM Tagged.readLov := by
        rw [← hfilled]
        refine mapM_filter (fun x _ hx => ?_) fun x _ hx => ?_
        · have hname : ¬ (x.givenName == "") = true := by simpa using hx
          rw [ofFilled?_print, if_neg hname]
        · have hname : (x.givenName == "") = true := by simpa using hx
          rw [ofFilled?_print, if_pos hname]

/-- The lists of values that close themselves. -/
theorem map_empty (c : Content) : ∃ tags, scanTags "LOV" c.print = .ok tags ∧
    (tags.filter (·.selfClosing)).map (fun t => Lov.ofAttributes t.attributes []) =
      (c.elements.filter (fun x => x.isLov && x.content.isNone)).map
        (fun x => Lov.ofAttributes x.attributes []) := by
  obtain ⟨tags, htags, hmap⟩ := map_eq_ok.mp (map_scanTags_print lovName c)
  refine ⟨tags, htags, ?_⟩
  calc (tags.filter (·.selfClosing)).map (fun t => Lov.ofAttributes t.attributes [])
      = ((tags.map (fun t => (t.attributes, t.selfClosing))).filter (·.2)).map
          (fun p => Lov.ofAttributes p.1 []) := by
        rw [List.filter_map, List.map_map]
        rfl
    _ = ((c.elements.filter Tagged.isLov).filter (·.content.isNone)).map
          (fun x => Lov.ofAttributes x.attributes []) := by
        rw [hmap, List.filter_map, List.map_map]
        rfl
    _ = _ := by
        rw [List.filter_filter]
        simp only [Bool.and_comm]

theorem name_ofAttributes (x : Tagged) (columns : List LovColumn) :
    (Lov.ofAttributes x.attributes columns).name = x.givenName := by
  simp only [Lov.ofAttributes, Tagged.givenName]

theorem okIff_lovsOf_print {c : Content} (hapart : c.LovsApart) :
    OkIff (lovsOf c.print)
      (∀ x ∈ c.filledLovs, ∀ y ∈ x.columns, y.attributes.InLimit "DisplayWidth") := by
  obtain ⟨tags, htags, -⟩ := map_empty c
  rw [lovsOf, filledLovsOf_print hapart, htags]
  exact OkIff.bind_ok (.mapM fun x _ => x.okIff_readLov) _

/-- What is read are the lists of values that the elements describe. -/
theorem eq_of_lovsOf {c : Content} (hapart : c.LovsApart) {lovs : List Lov}
    (h : lovsOf c.print = .ok lovs) :
    lovs = c.filledLovs.map Tagged.lov ++
      c.bareLovs.map (fun x => Lov.ofAttributes x.attributes []) := by
  obtain ⟨tags, htags, hempty⟩ := map_empty c
  have hbare : (c.elements.filter (fun x => x.isLov && x.content.isNone)).filter (fun x =>
        x.givenName != "" && !c.filledLovs.any (·.givenName == x.givenName)) =
      c.emptyLovs.filter (fun x => !c.filledLovs.any (·.givenName == x.givenName)) := by
    simp only [emptyLovs, List.filter_filter, Bool.and_assoc, Bool.and_comm, Bool.and_left_comm]
  rw [lovsOf, filledLovsOf_print hapart, htags] at h
  obtain ⟨filled, hfilled, h⟩ := bind_eq_ok.mp h
  obtain rfl := Except.ok.inj h
  have hlovs := map_of_mapM (g := id) hfilled fun x _ lov hx => Tagged.eq_lov hx
  rw [List.map_id] at hlovs
  rw [hlovs, hempty, List.filter_map, firsts_map]
  simp only [Tagged.lov, Function.comp_def, name_ofAttributes, List.any_map, hbare]
  rfl

theorem mem_bareLovs {c : Content} {x : Tagged} (h : x ∈ c.bareLovs) :
    x ∈ c.emptyLovs ∧ ∀ y ∈ c.filledLovs, y.givenName ≠ x.givenName := by
  obtain ⟨hempty, hnot⟩ := List.mem_filter.mp ((firsts_sublist _ _).subset h)
  refine ⟨hempty, fun y hy heq => ?_⟩
  have hseen : c.filledLovs.any (·.givenName == x.givenName) = true :=
    List.any_eq_true.mpr ⟨y, hy, beq_iff_eq.mpr heq⟩
  rw [hseen] at hnot
  cases hnot

/-- A name of a list of values that closes itself is kept by one of the lists that are read. -/
theorem exists_of_mem_emptyLovs {c : Content} {x : Tagged} (h : x ∈ c.emptyLovs) :
    ∃ y ∈ c.filledLovs ++ c.bareLovs, y.givenName = x.givenName := by
  cases hseen : c.filledLovs.any (·.givenName == x.givenName) with
  | true =>
    obtain ⟨y, hy, heq⟩ := List.any_eq_true.mp hseen
    exact ⟨y, List.mem_append_left _ hy, beq_iff_eq.mp heq⟩
  | false =>
    have hkept : x ∈ c.emptyLovs.filter (fun x => !c.filledLovs.any (·.givenName == x.givenName)) :=
      List.mem_filter.mpr ⟨h, by rw [hseen]; rfl⟩
    have hname : x.givenName ∈ c.bareLovs.map Tagged.givenName := by
      rw [bareLovs, map_firsts, mem_distinct]
      exact List.mem_map_of_mem hkept
    obtain ⟨y, hy, heq⟩ := List.mem_map.mp hname
    exact ⟨y, List.mem_append_right _ hy, heq⟩

end Content

/-- **Lists of values are read exactly.** A document in which no list of values contains another is
read unless a column in a named list of values has a width of more digits than are read. Reading
gives first the named lists of values that have a closing tag, in document order, each with the
named columns that stand in it, and then, in document order and without columns, the named ones that
close themselves, the first of each name that was not among those before. A column has an empty
return item when its element does not say one. -/
theorem lovsOf_print (c : Content) (hapart : c.LovsApart) :
    OkIff (lovsOf c.print)
        (∀ x ∈ c.filledLovs, ∀ y ∈ x.columns, y.attributes.InLimit "DisplayWidth") ∧
      (∀ lovs, lovsOf c.print = .ok lovs → lovs =
        c.filledLovs.map Tagged.lov ++
          c.bareLovs.map (fun x => Lov.ofAttributes x.attributes [])) ∧
      c.bareLovs.Sublist c.emptyLovs ∧
      (c.bareLovs.map Tagged.givenName).Nodup ∧
      (∀ x ∈ c.bareLovs, ∀ y ∈ c.filledLovs, y.givenName ≠ x.givenName) ∧
      (∀ x ∈ c.emptyLovs, ∃ y ∈ c.filledLovs ++ c.bareLovs, y.givenName = x.givenName) ∧
      ∀ x : Tagged, x.attributes.find? "ReturnItem" = none → x.column.returnItem = "" := by
  refine ⟨Content.okIff_lovsOf_print hapart, fun lovs => Content.eq_of_lovsOf hapart,
    (firsts_sublist _ _).trans List.filter_sublist, ?_,
    fun x hx => (Content.mem_bareLovs hx).2, fun x => Content.exists_of_mem_emptyLovs, ?_⟩
  · rw [Content.bareLovs, map_firsts]
    exact nodup_distinct _
  · intro x hnone
    simp only [Tagged.column, Attributes.text, hnone, Option.getD_none]

/-- A list of values without content keeps its place among those with a closing tag, and one that
closes itself is left out when its name has been seen. -/
theorem lovsOf_print_mixed :
    let tag : Run isTagChar → String → OpenTag := fun name title =>
      { name := ⟨none, name⟩
        first :=
          { gap := Run.of [' '] (by decide)
            name := ⟨none, Run.of ['N', 'a', 'm', 'e'] (by decide)⟩
            value := title }
        more := [], tail := ⟨[], by simp⟩ }
    let group : Run isTagChar := Run.of ['G'] (by decide)
    let c : Content := .empty (tag lovName "L2") <|
      .full (tag group "G")
        (.full (tag lovName "L1")
          (.full (tag group "H") (.empty (tag columnName "A") .nil)
            (.text ⟨[' ', '>'], by simp⟩ (.empty (tag columnName "B") .nil)))
          (.empty (tag lovName "L1") (.empty (tag columnName "C") .nil)))
        (.empty (tag lovName "L2") (.full (tag lovName "L3") .nil .nil))
    c.LovsApart ∧ ∃ lovs, lovsOf c.print = .ok lovs ∧
      lovs.map (fun l => (l.name, l.columns.map (·.name))) =
        [("L1", ["A", "B"]), ("L3", []), ("L2", [])] := by
  intro tag group c
  have hapart : c.LovsApart := by decide +kernel
  obtain ⟨hreads, hlovs, -⟩ := lovsOf_print c hapart
  obtain ⟨lovs, hread⟩ := hreads.ok (by decide +kernel)
  refine ⟨hapart, lovs, hread, ?_⟩
  rw [hlovs lovs hread]
  decide +kernel

/-- A list of values is not read if the width of a column in it has too many digits. -/
theorem lovsOf_print_overlong :
    let written : Run isAttributeChar → String → Attribute := fun name value =>
      { gap := Run.of [' '] (by decide), name := ⟨none, name⟩, value }
    let tag : Run isTagChar → List Attribute → OpenTag := fun name more =>
      { name := ⟨none, name⟩, first := written (Run.of "Name".toList (by decide)) "A", more
        tail := ⟨[], by simp⟩ }
    let width := written (Run.of "DisplayWidth".toList (by decide)) overlongNumber
    let c : Content := .full (tag lovName []) (.empty (tag columnName [width]) .nil) .nil
    c.LovsApart ∧ lovsOf c.print = .error .overlong := by
  intro written tag width c
  have hapart : c.LovsApart := by decide +kernel
  refine ⟨hapart, (Content.okIff_lovsOf_print hapart).overlong fun h => ?_⟩
  have hlov : ⟨tag lovName [], some (.empty (tag columnName [width]) .nil)⟩ ∈ c.filledLovs :=
    List.mem_filter.mpr ⟨List.mem_cons_self, by decide +kernel⟩
  have hcolumn : ⟨tag columnName [width], none⟩ ∈
      Tagged.columns ⟨tag lovName [], some (.empty (tag columnName [width]) .nil)⟩ :=
    List.mem_filter.mpr ⟨List.mem_cons_self, by decide +kernel⟩
  refine not_inLimit ?_ (h _ hlov _ hcolumn)
  exact text_second (by decide +kernel) (by decide +kernel)

end Formwork.Form
