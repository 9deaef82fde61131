import Mathlib.Algebra.GroupWithZero.Nat
import Mathlib.Data.List.Basic
import Mathlib.Data.List.Perm.Basic
import Formwork.Proofs.Form.Legible
import Formwork.Proofs.Form.Lookup
import Formwork.Proofs.Form.Span
import Formwork.Proofs.Trigger.Numbering

/-!
# Triggers and their blocks

In a printed document in which no block contains a block and no item an item, every trigger is
listed once or left out for a reason: it is listed under the block that contains it, or under the
form when neither a block nor an item contains it. The analysis then numbers what is listed. All
this is so unless an integer has more digits than are read.
-/
namespace Formwork.Form

namespace Element

def isBlock (e : Element) : Bool :=
  e.localName == "Block"

def isItem (e : Element) : Bool :=
  e.localName == "Item"

def isTrigger (e : Element) : Bool :=
  e.localName == "Trigger"

/-- The value of the name attribute. -/
def givenName (e : Element) : String :=
  e.attributes.text "Name"

/-- Whether it is a block with a name that is not skipped. -/
def isListed (skipped : String → Bool) (e : Element) : Bool :=
  e.isBlock && (e.givenName != "" && !skipped e.givenName)

def trigger (e : Element) : Trigger :=
  .ofAttributes e.attributes

end Element

namespace Site

/-- The block that contains an element, the innermost one. -/
def block? (x : Site) : Option Element :=
  x.around.find? Element.isBlock

/-- Whether an item contains an element. -/
def inItem (x : Site) : Bool :=
  x.around.any Element.isItem

/-- Whether an element belongs to the form itself. -/
def isFree (x : Site) : Bool :=
  x.block?.isNone && !x.inItem

/-- Whether an element is lost: its block is not listed, or it has none and stands in an item. -/
def isLost (skipped : String → Bool) (x : Site) : Bool :=
  match x.block? with
  | some b => !b.isListed skipped
  | none => x.inItem

end Site

/-- The elements of a document that are triggers, at their places. -/
def Document.triggers (d : Document) : List Site :=
  d.sites.filter (·.element.isTrigger)

/-! ## Blocks without blocks in them -/

namespace Element

variable {around : List Element} {start : Nat} {es : List Element} {x : Site}

/-- Elements of a kind that none of a list is stand around the whole list only. -/
theorem find?_around {p : Element → Bool} (hnone : ∀ e ∈ withInnerOf es, p e = false)
    (hx : x ∈ sitesOf around start es) : x.around.find? p = around.find? p := by
  induction es using forest_induction generalizing around start with
  | nil => cases hx
  | cons e es hchildren hes =>
    rw [withInnerOf_cons] at hnone
    obtain ⟨hself, hnone⟩ := List.forall_mem_cons.mp hnone
    obtain ⟨hinner, hrest⟩ := List.forall_mem_append.mp hnone
    rw [sitesOf_cons, List.mem_cons, List.mem_append] at hx
    rcases hx with rfl | hx | hx
    · rfl
    · rw [hchildren hinner hx, List.find?_cons_of_neg (by simp [hself])]
    · exact hes hrest hx

/-- The elements in a block that contains no other know it as theirs. -/
theorem block?_of_mem_children {e : Element} (hblock : e.isBlock = true)
    (hnone : ∀ f ∈ e.inner, f.isBlock = false)
    (hx : x ∈ sitesOf (e :: around) start e.children) : x.block? = some e := by
  rw [Site.block?, find?_around hnone hx, List.find?_cons_of_pos hblock]

/-- Where no block contains a block, the elements of a kind in listed blocks, one block after the
other, are those whose block is listed. -/
theorem flatMap_inner {listed kind : Element → Bool} (hlisted : ∀ e, listed e = true → e.isBlock)
    (hflat : ∀ e ∈ withInnerOf es, e.isBlock → ∀ f ∈ e.inner, f.isBlock = false)
    (haround : around.find? isBlock = none) :
    ((withInnerOf es).filter listed).flatMap (fun e => e.inner.filter kind) =
      ((sitesOf around start es).filter (fun x => kind x.element && x.block?.any listed)).map
        (·.element) := by
  induction es using forest_induction generalizing around start with
  | nil => rfl
  | cons e es hchildren hes =>
    rw [withInnerOf_cons] at hflat
    obtain ⟨hself, hflat⟩ := List.forall_mem_cons.mp hflat
    obtain ⟨hflatInner, hflatRest⟩ := List.forall_mem_append.mp hflat
    have hrest := @hes around (start + extent e.pieces) hflatRest haround
    let inListed : Site → Bool := fun x => kind x.element && x.block?.any listed
    have hfirst : ¬ inListed ⟨e, around, start⟩ = true := by
      simp [inListed, Site.block?, haround]
    rw [withInnerOf_cons, sitesOf_cons, List.filter_cons_of_neg (p := inListed) hfirst,
      List.filter_append, List.map_append, ← hrest]
    cases hblock : e.isBlock with
    | true =>
      have hnone := hself hblock
      have hinner : e.inner.filter listed = [] := by
        refine List.filter_eq_nil_iff.mpr fun f hf hlist => ?_
        have hno := hnone f hf
        rw [hlisted f hlist] at hno
        cases hno
      have hsites : (sitesOf (e :: around) (start + extent e.head) e.children).filter
            (fun x => kind x.element && x.block?.any listed) =
          (sitesOf (e :: around) (start + extent e.head) e.children).filter
            (fun x => kind x.element && listed e) := by
        refine List.filter_congr fun x hx => ?_
        rw [block?_of_mem_children hblock hnone hx, Option.any_some]
      rw [hsites]
      cases hlist : listed e with
      | true =>
        have hmap := map_element_sitesOf (e :: around) (start + extent e.head) e.children
        rw [List.filter_cons_of_pos hlist, List.filter_append, hinner, List.nil_append,
          List.flatMap_cons, inner, ← hmap, List.filter_map]
        simp only [Bool.and_true]
        rfl
      | false =>
        rw [List.filter_cons_of_neg (by simp [hlist]), List.filter_append, hinner, List.nil_append]
        simp
    | false =>
      have hlist : ¬ listed e = true := by
        intro hlist
        rw [hlisted e hlist] at hblock
        cases hblock
      have hnext : (e :: around).find? isBlock = none := by
        rw [List.find?_cons_of_neg (by simp [hblock]), haround]
      rw [List.filter_cons_of_neg hlist, List.filter_append, List.flatMap_append, inner,
        hchildren hflatInner hnext]

end Element

/-! ## Reading triggers -/

def blockName : Run isTagChar := Run.of ['B', 'l', 'o', 'c', 'k'] (by decide)
def itemName : Run isTagChar := Run.of ['I', 't', 'e', 'm'] (by decide)
def triggerName : Run isTagChar := Run.of ['T', 'r', 'i', 'g', 'g', 'e', 'r'] (by decide)

namespace Document

variable {d : Document}

/-- The triggers of a document with their places. -/
def placedTriggers (d : Document) : List (Nat × Trigger) :=
  d.triggers.map (fun x => (x.start, x.element.trigger))

theorem triggersOf_text (d : Document) : triggersOf d.text = .ok d.placedTriggers := by
  refine bind_eq_ok.mpr ⟨_, scanTags_sites triggerName d, congrArg Except.ok ?_⟩
  rw [List.map_map]
  rfl

/-- The triggers that a span surrounds are those that the element contains. -/
theorem filter_triggers {y : Site} (hy : y ∈ d.sites) :
    (d.placedTriggers.filter (fun t => y.placed.surrounds t.1)).map (·.2) =
      (y.element.inner.filter Element.isTrigger).map Element.trigger := by
  have hinner := Element.filter_surrounds hy
  rw [placedTriggers, List.filter_map, List.map_map, triggers, List.filter_filter, ← hinner,
    List.filter_map, List.map_map, List.filter_filter]
  refine congrArg (List.map _) (List.filter_congr fun x _ => ?_)
  exact Bool.and_comm _ _

/-- The blocks of a document are listed by name, each with the triggers that it contains. -/
theorem map_triggers_blocksOf (hflat : d.Flat "Block") {tokens : List String}
    {skipped : String → Bool} {items : List (Placed Item)} {blocks : List Block}
    (hread : blocksOf tokens skipped items d.text = .ok blocks) :
    blocks.map (fun b => (b.name, b.triggers)) =
      (d.elements.filter (Element.isListed skipped)).map (fun e =>
        (e.givenName, (e.inner.filter Element.isTrigger).map Element.trigger)) := by
  have hblock : ∀ (p : Placed Attributes) b,
      Block.ofElement tokens items d.placedTriggers p = .ok b → (b.name, b.triggers) =
        (p.value.text "Name",
          (d.placedTriggers.filter (fun t => p.surrounds t.1)).map (·.2)) := by
    intro p b hb
    obtain ⟨displayCount, -, hb⟩ := bind_eq_ok.mp hb
    obtain rfl := Except.ok.inj hb
    rfl
  rw [map_blocksOf hread (triggersOf_text d) (elementsOf_text blockName hflat)
    fun p _ b hb => hblock p b hb, ← map_element_sites, List.filter_map, List.filter_map,
    List.filter_filter, List.map_map, List.map_map]
  have hlisted : ∀ x : Site,
      (x.placed.value.text "Name" != "" && !skipped (x.placed.value.text "Name") &&
          x.element.localName == String.ofList blockName.list) =
        x.element.isListed skipped := by
    intro x
    rw [Element.isListed, Element.isBlock, Bool.and_comm]
    rfl
  simp only [Function.comp_def, hlisted]
  refine List.map_congr_left fun x hx => ?_
  rw [filter_triggers (List.mem_filter.mp hx).1]
  rfl

/-- The triggers of the form are those that neither a block nor an item contains. -/
theorem eq_of_formTriggersOf (hblocks : d.Flat "Block") (hitems : d.Flat "Item")
    {items : List (Placed Item)} (hread : itemsOf d.text = .ok items) {triggers : List Trigger}
    (htriggers : formTriggersOf items d.text = .ok triggers) :
    triggers = (d.triggers.filter Site.isFree).map (·.element.trigger) := by
  have hblockSpans : elementsOf "Block" d.text =
      .ok ((d.sites.filter (·.element.isBlock)).map Site.placed) :=
    elementsOf_text blockName hblocks
  have hitemSpans : ∀ offset, items.any (·.surrounds offset) =
      (d.sites.filter (·.element.isItem)).any (·.surrounds offset) := by
    intro offset
    have hspans := map_span_itemsOf hread (elementsOf_text itemName hitems)
    have hany := congrArg (List.any · (fun p => p.1 < offset && offset < p.2)) hspans
    rw [List.any_map, List.any_map, List.any_map] at hany
    exact hany
  -- A trigger is surrounded by a span of a kind exactly if an element of the kind is around it.
  have hany : ∀ (kind : Element → Bool), ∀ x ∈ d.sites,
      (d.sites.filter (fun y => kind y.element)).any (fun y => y.surrounds x.start) =
        x.around.any kind := by
    intro kind x hx
    rw [Bool.eq_iff_iff, List.any_eq_true, List.any_eq_true]
    constructor
    · rintro ⟨y, hy, hsurrounds⟩
      obtain ⟨hy, hkind⟩ := List.mem_filter.mp hy
      exact ⟨y.element, Element.mem_around_of_surrounds hx hy hsurrounds, hkind⟩
    · rintro ⟨a, ha, hkind⟩
      rcases Element.exists_surrounds hx ha with hnil | ⟨y, hy, rfl, hsurrounds⟩
      · cases hnil
      · exact ⟨y, List.mem_filter.mpr ⟨hy, hkind⟩, hsurrounds⟩
  rw [formTriggersOf, hblockSpans, triggersOf_text] at htriggers
  obtain rfl := Except.ok.inj htriggers
  rw [placedTriggers, List.filter_map, List.map_map]
  refine congrArg (List.map _) (List.filter_congr fun x hx => ?_)
  have hx := (List.mem_filter.mp hx).1
  have hnone : x.block?.isNone = !x.around.any Element.isBlock := by
    rw [Site.block?, Bool.eq_iff_iff]
    simp
  have hblock := hany Element.isBlock x hx
  have hitem := hany Element.isItem x hx
  rw [Site.isFree, hnone, Site.inItem, ← hblock, ← hitem, ← Bool.not_or, ← hitemSpans,
    Function.comp_apply]
  simp only [List.any_map]
  rfl

/-- Every trigger is free, lost, or in a listed block. -/
theorem triggers_perm (skipped : String → Bool) :
    (d.triggers.filter Site.isFree ++
        d.triggers.filter (fun x => x.block?.any (Element.isListed skipped)) ++
        d.triggers.filter (Site.isLost skipped)).Perm d.triggers := by
  have hsplit := List.filter_append_perm (fun x => x.block?.any (Element.isListed skipped))
    (d.triggers.filter (fun x => !x.isFree))
  have hlisted : (d.triggers.filter (fun x => !x.isFree)).filter
        (fun x => x.block?.any (Element.isListed skipped)) =
      d.triggers.filter (fun x => x.block?.any (Element.isListed skipped)) := by
    rw [List.filter_filter]
    refine List.filter_congr fun x _ => ?_
    cases hblock : x.block? <;> simp [Site.isFree, hblock]
  have hlost : (d.triggers.filter (fun x => !x.isFree)).filter
        (fun x => !x.block?.any (Element.isListed skipped)) =
      d.triggers.filter (Site.isLost skipped) := by
    rw [List.filter_filter]
    refine List.filter_congr fun x _ => ?_
    cases hblock : x.block? <;> simp [Site.isFree, Site.isLost, hblock]
  rw [hlisted, hlost] at hsplit
  rw [List.append_assoc]
  exact (hsplit.append_left _).trans (List.filter_append_perm Site.isFree d.triggers)

/-- The triggers under the listed blocks, one block after the other, in the order of the
document. -/
theorem flatMap_triggers (hflat : d.Flat "Block") (skipped : String → Bool) :
    (d.elements.filter (Element.isListed skipped)).flatMap
        (fun e => e.inner.filter Element.isTrigger) =
      (d.triggers.filter (fun x => x.block?.any (Element.isListed skipped))).map (·.element) := by
  have hlisted : ∀ e : Element, e.isListed skipped = true → e.isBlock = true := by
    intro e he
    rw [Element.isListed, Bool.and_eq_true] at he
    exact he.1
  have hinner : ∀ e ∈ d.elements, e.isBlock → ∀ f ∈ e.inner, f.isBlock = false := by
    intro e he hblock f hf
    rw [Element.isBlock, beq_iff_eq] at hblock
    rw [Element.isBlock, beq_eq_false_iff_ne]
    exact hflat e he hblock f hf
  have hsites : d.triggers.filter (fun x => x.block?.any (Element.isListed skipped)) =
      d.sites.filter (fun x => x.element.isTrigger && x.block?.any (Element.isListed skipped)) := by
    rw [triggers, List.filter_filter]
    simp only [Bool.and_comm]
  rw [hsites]
  exact Element.flatMap_inner hlisted hinner rfl

/-! ## Documents that are read -/

/-- In the values of a printed document there is no reference of too many digits. -/
theorem legibleTags_text (tag : String) (htag : (!tag.toList.isEmpty && tag.toList.all isTagChar))
    (d : Document) : LegibleTags tag d.text := by
  have hscan := scanTags_sites (Run.of tag.toList htag) d
  rw [Run.of, String.ofList_toList] at hscan
  exact (okIff_scanTags tag d.text).of_ok hscan

theorem eachTag_text (name : Run isTagChar) {p : Attributes → Prop} :
    EachTag (String.ofList name.list) d.text p ↔
      ∀ e ∈ d.elements, e.localName = String.ofList name.list → p e.attributes := by
  rw [EachTag, scanTags_sites, ← map_element_sites, List.forall_mem_map]
  constructor
  · intro h x hx hname
    exact h _ rfl x.tag.toTag (List.mem_map_of_mem (List.mem_filter.mpr ⟨hx, beq_iff_eq.mpr hname⟩))
  · intro h tags htags t ht
    obtain rfl := Except.ok.inj htags
    obtain ⟨x, hx, rfl⟩ := List.mem_map.mp ht
    obtain ⟨hx, hname⟩ := List.mem_filter.mp hx
    exact h x hx (beq_iff_eq.mp hname)

/-- The integers of a document that are read have no more digits than are read. -/
structure InLimit (skipped : String → Bool) (d : Document) : Prop where
  items : ∀ e ∈ d.elements, e.isItem → ∀ name ∈ itemIntegers, e.attributes.InLimit name
  blocks : ∀ e ∈ d.elements, e.isListed skipped → e.attributes.InLimit "RecordsDisplayCount"
  lovs : LegibleFilledLovs d.text

theorem legible_text {skipped : String → Bool} : Legible skipped d.text ↔ d.InLimit skipped := by
  have hitems : EachTag "Item" d.text (fun a => ∀ name ∈ itemIntegers, a.InLimit name) ↔
      ∀ e ∈ d.elements, e.isItem → ∀ name ∈ itemIntegers, e.attributes.InLimit name := by
    simp only [Element.isItem, beq_iff_eq]
    exact eachTag_text itemName
  have hblocks : EachTag "Block" d.text (fun a => a.text "Name" ≠ "" →
        skipped (a.text "Name") = false → a.InLimit "RecordsDisplayCount") ↔
      ∀ e ∈ d.elements, e.isListed skipped → e.attributes.InLimit "RecordsDisplayCount" := by
    simp only [Element.isListed, Element.isBlock, Bool.and_eq_true, beq_iff_eq, bne_iff_ne,
      Bool.not_eq_true', and_imp]
    exact eachTag_text blockName
  constructor
  · intro h
    exact ⟨hitems.mp h.items.2, hblocks.mp h.blocks.2.2, h.lovs.1⟩
  · intro h
    have htags := fun tag htag => legibleTags_text tag htag d
    exact {
      header := legibleHeader_of_tags (htags _ (by decide)) (htags _ (by decide))
      items := ⟨htags _ (by decide), hitems.mpr h.items⟩
      blocks := ⟨htags _ (by decide), htags _ (by decide), hblocks.mpr h.blocks⟩
      canvases := htags _ (by decide)
      tabPages := htags _ (by decide)
      lovs := ⟨h.lovs, htags _ (by decide)⟩
      recordGroups := htags _ (by decide) }

theorem okIff_read_text {s : Settings} {skipped : String → Bool} {labels : List String}
    (hskipped : s.skippedBlocks = .ok skipped) (hlabels : s.systemLabels = .ok labels)
    (d : Document) : OkIff (Module.read s (String.ofList d.text)) (d.InLimit skipped) := by
  have hread := okIff_read hskipped hlabels (String.ofList d.text)
  rw [String.toList_ofList] at hread
  exact hread.congr legible_text

end Document

/-- **Every trigger is attributed once and numbered.** A printed document in which no block contains
a block and no item an item is read unless an integer in it has more digits than are read. Reading
it lists the triggers that neither contains under the form and the triggers that a listed block
contains under that block, both in the order of the document. The triggers that are left out are
those whose block is not listed, and those in items outside every block; these three kinds make up
all triggers. There is an analysis unless a program has a decimal reference of more digits than are
read. It has exactly the listed triggers, those of the form first, under the numbers from one on,
and its counts add up to the number of all. -/
theorem read_triggers (s : Settings) (d : Document) {skipped : String → Bool}
    {labels : List String} (hskipped : s.skippedBlocks = .ok skipped)
    (hlabels : s.systemLabels = .ok labels) (hblocks : d.Flat "Block") (hitems : d.Flat "Item") :
    OkIff (Module.read s (String.ofList d.text)) (d.InLimit skipped) ∧
    ∀ m, Module.read s (String.ofList d.text) = .ok m →
      m.triggers = (d.triggers.filter Site.isFree).map (·.element.trigger) ∧
      m.blocks.map (fun b => (b.name, b.triggers)) =
        (d.elements.filter (Element.isListed skipped)).map (fun e =>
          (e.givenName, (e.inner.filter Element.isTrigger).map Element.trigger)) ∧
      (m.triggers ++ m.blocks.flatMap (·.triggers) ++
          (d.triggers.filter (Site.isLost skipped)).map (·.element.trigger)).Perm
        (d.triggers.map (·.element.trigger)) ∧
      OkIff (Trigger.Section.ofModule m)
        (∀ x ∈ Trigger.sources m, Text.Legible x.trigger.body.toList) ∧
      ∀ analysis, Trigger.Section.ofModule m = .ok analysis →
        analysis.all.map .ok = (Trigger.sources m).mapIdx (fun i x => x.analysis (1 + i)) ∧
        analysis.form.length = m.triggers.length ∧
        analysis.blocks.map (·.1) =
          (m.blocks.filter (fun b => !b.triggers.isEmpty)).map (·.name) ∧
        analysis.all.map (·.number) = List.range' 1 analysis.count ∧
        analysis.count = analysis.form.length + analysis.blockCount ∧
        analysis.blockCount = (analysis.blocks.map (·.2.length)).sum ∧
        analysis.count = (analysis.countByEvent.map (·.2)).sum := by
  refine ⟨Document.okIff_read_text hskipped hlabels d, fun m hm => ?_⟩
  obtain ⟨items, hmitems, hmblocks, hmtriggers⟩ := parts_read hskipped hlabels hm
  rw [String.toList_ofList] at hmitems hmblocks hmtriggers
  have hform := Document.eq_of_formTriggersOf hblocks hitems hmitems hmtriggers
  have hlisted := Document.map_triggers_blocksOf hblocks hmblocks
  have hunder : m.blocks.flatMap (·.triggers) =
      (d.triggers.filter (fun x => x.block?.any (Element.isListed skipped))).map
        (·.element.trigger) := by
    calc m.blocks.flatMap (·.triggers)
        = (m.blocks.map (fun b => (b.name, b.triggers))).flatMap (·.2) := by
          rw [List.flatMap_map]
      _ = ((d.elements.filter (Element.isListed skipped)).flatMap
            (fun e => e.inner.filter Element.isTrigger)).map Element.trigger := by
          rw [hlisted, List.flatMap_map, List.map_flatMap]
      _ = _ := by
          rw [Document.flatMap_triggers hblocks, List.map_map]
          rfl
  have hperm := (d.triggers_perm skipped).map (·.element.trigger)
  rw [List.map_append, List.map_append, ← hform, ← hunder] at hperm
  refine ⟨hform, hlisted, hperm, Trigger.okIff_ofModule m, fun analysis hanalysis => ?_⟩
  obtain ⟨hadd, hsum⟩ := Trigger.Section.count_eq_add analysis
  exact ⟨Trigger.Section.map_all_ofModule hanalysis, Trigger.Section.length_form hanalysis,
    Trigger.Section.map_fst_blocks hanalysis, Trigger.Section.map_number_ofModule hanalysis, hadd,
    hsum, Trigger.Section.count_eq_sum analysis⟩

/-- A trigger in an item of a block belongs to the block, and one in a skipped block is lost. -/
theorem read_triggers_nested :
    let none : Blanks := ⟨[], by simp⟩
    let element : Run isTagChar → String → List Element → Element := fun name title inner =>
      .node
        { name := ⟨.none, name⟩
          first :=
            { gap := Run.of [' '] (by decide)
              name := ⟨.none, Run.of ['N', 'a', 'm', 'e'] (by decide)⟩
              value := title }
          more := [], tail := none }
        none inner none
    let d : Document := ⟨none, [
      element triggerName "PRE-FORM" [],
      element blockName "B1" [
        element itemName "A" [element triggerName "IN-ITEM" []],
        element triggerName "IN-BLOCK" []],
      element blockName "HEAD_BLOCK" [element triggerName "SKIPPED" []],
      element itemName "C" [element triggerName "IN-LOOSE-ITEM" []],
      element triggerName "POST-FORM" []]⟩
    d.Flat "Block" ∧ d.Flat "Item" ∧
      ∃ m, Module.read .builtin (String.ofList d.text) = .ok m ∧
        m.triggers.map (·.name) = ["PRE-FORM", "POST-FORM"] ∧
        m.blocks.map (fun b => (b.name, b.triggers.map (·.name))) =
          [("B1", ["IN-ITEM", "IN-BLOCK"])] ∧
        ∃ analysis, Trigger.Section.ofModule m = .ok analysis ∧
          analysis.all.map (·.number) = [1, 2, 3, 4] := by
  intro none element d
  have hblocks : d.Flat "Block" := by decide +kernel
  have hitems : d.Flat "Item" := by decide +kernel
  obtain ⟨hreads, hall⟩ := read_triggers .builtin d skippedBlocks_builtin rfl hblocks hitems
  obtain ⟨_, hlovs, -⟩ := map_toOption_eq_some.mp
    (show (filledLovsOf d.text).toOption.map List.length = some 0 by decide +kernel)
  obtain ⟨m, hm⟩ := hreads.ok
    ⟨by decide +kernel, by decide +kernel, (okIff_filledLovsOf d.text).of_ok hlovs⟩
  obtain ⟨hform, hlisted, hperm, hanalysed, hnumbered⟩ := hall m hm
  have hnames : m.triggers.map (·.name) = ["PRE-FORM", "POST-FORM"] := by
    rw [hform]
    decide +kernel
  have hunder : m.blocks.map (fun b => (b.name, b.triggers.map (·.name))) =
      [("B1", ["IN-ITEM", "IN-BLOCK"])] := by
    have hmap := congrArg (List.map (fun p => (p.1, p.2.map (·.name)))) hlisted
    rw [List.map_map] at hmap
    exact hmap.trans (by decide +kernel)
  have hbodies : ∀ t ∈ d.triggers.map (·.element.trigger), t.body = "" := by decide +kernel
  obtain ⟨analysis, hanalysis⟩ := hanalysed.ok fun x hx => by
    have hmem : x.trigger ∈ m.triggers ++ m.blocks.flatMap (·.triggers) := by
      rw [← Trigger.map_trigger_sources]
      exact List.mem_map_of_mem hx
    rw [hbodies _ (hperm.subset (List.mem_append_left _ hmem))]
    exact Text.legible_nil
  refine ⟨hblocks, hitems, m, hm, hnames, hunder, analysis, hanalysis, ?_⟩
  obtain ⟨-, -, -, hnumbers, -⟩ := hnumbered analysis hanalysis
  have hcount : analysis.count = 4 := by
    have hforms := congrArg List.length hnames
    have hlengths := congrArg (fun l => (l.map (fun p => p.2.length)).sum) hunder
    rw [Trigger.Section.count_ofModule hanalysis, Trigger.sources]
    simp only [List.length_map, List.map_map, List.length_append, List.length_flatMap,
      Trigger.sourcesOfBlock, Function.comp_def] at hforms hlengths ⊢
    rw [hforms, hlengths]
    rfl
  rw [hnumbers, hcount]
  rfl

/-- A document with an item whose length has too many digits is not read, though a trigger stands in
it. -/
theorem read_triggers_overlong :
    let none : Blanks := ⟨[], by simp⟩
    let written : Run isAttributeChar → String → Attribute := fun name value =>
      { gap := Run.of [' '] (by decide), name := ⟨.none, name⟩, value }
    let element : Run isTagChar → String → List Attribute → Element := fun name title more =>
      .node
        { name := ⟨.none, name⟩, first := written (Run.of "Name".toList (by decide)) title, more
          tail := none }
        none [] none
    let length := written (Run.of "MaximumLength".toList (by decide)) overlongNumber
    let d : Document :=
      ⟨none, [element triggerName "PRE-FORM" [], element itemName "A" [length]]⟩
    d.Flat "Block" ∧ d.Flat "Item" ∧
      (d.triggers.filter Site.isFree).map (·.element.trigger.name) = ["PRE-FORM"] ∧
      Module.read .builtin (String.ofList d.text) = .error .overlong := by
  intro none written element length d
  refine ⟨by decide +kernel, by decide +kernel, by decide +kernel, ?_⟩
  refine (Document.okIff_read_text skippedBlocks_builtin rfl d).overlong fun h => ?_
  have hmem : element itemName "A" [length] ∈ d.elements :=
    List.mem_cons_of_mem _ List.mem_cons_self
  refine not_inLimit ?_ (h.items _ hmem (by decide +kernel) "MaximumLength" (by decide))
  exact text_second (by decide +kernel) (by decide +kernel)

end Formwork.Form
