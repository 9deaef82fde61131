import Mathlib.Data.List.Basic
import Formwork.Proofs.Text.Escape
import Formwork.Proofs.Trigger.Attribution
import Formwork.Proofs.Trigger.Retrieval

/-!
# Decoding programs

The value of an attribute is decoded when its tag is read, and the analysis of a trigger decodes its
program once more. What is analysed is therefore the text that the value stands for in its turn. It
is the value itself if every ampersand in the value begins no reference, and it is the program if
the document has the program escaped twice.
-/
namespace Formwork.Form

/-- The program of a trigger as the document has it. -/
def Element.program (e : Element) : String :=
  e.attributes.text "TriggerText"

theorem Element.name_trigger (e : Element) : e.trigger.name = e.givenName := by
  simp only [trigger, Trigger.ofAttributes, givenName]

theorem Element.body_trigger (e : Element) : e.trigger.body = e.program := by
  simp only [trigger, Trigger.ofAttributes, program]

/-- What is analysed is the program of a trigger, decoded. -/
theorem map_body_all {m : Module} {analysis : Trigger.Section}
    (h : Trigger.Section.ofModule m = .ok analysis) :
    analysis.all.map (fun a => (a.name, Except.ok a.body)) =
      ((Trigger.sources m).map (·.trigger)).map (fun t => (t.name, Text.unescape t.body)) := by
  have hshown : ∀ number (x : Trigger.Source) a, x.analysis number = .ok a →
      (a.name, Except.ok a.body) = (x.trigger.name, Text.unescape x.trigger.body) := by
    intro number x a ha
    obtain ⟨body, hbody, ha⟩ := bind_eq_ok.mp ha
    obtain rfl := Except.ok.inj ha
    exact congrArg (x.trigger.name, ·) hbody.symm
  rw [Trigger.Section.map_all h hshown, List.map_map]
  rfl

namespace Document

variable {d : Document}

/-- The triggers that are listed, those of the form first and then those of each block. -/
def listedTriggers (d : Document) (skipped : String → Bool) : List Element :=
  (d.triggers.filter Site.isFree).map (·.element) ++
    (d.elements.filter (Element.isListed skipped)).flatMap (·.inner.filter Element.isTrigger)

/-- Wherever a trigger is listed, it is one of the document. -/
theorem exists_of_mem_placedTriggers {t : Nat × Trigger} (h : t ∈ d.placedTriggers) :
    ∃ e ∈ d.elements, e.isTrigger ∧ e.trigger = t.2 := by
  obtain ⟨x, hx, rfl⟩ := List.mem_map.mp h
  obtain ⟨hx, htrigger⟩ := List.mem_filter.mp hx
  refine ⟨x.element, ?_, htrigger, rfl⟩
  rw [← map_element_sites]
  exact List.mem_map_of_mem hx

theorem exists_of_mem_sources {m : Module} {tokens : List String} {skipped : String → Bool}
    {items : List (Placed Item)} (hblocks : blocksOf tokens skipped items d.text = .ok m.blocks)
    (htriggers : formTriggersOf items d.text = .ok m.triggers) {t : Trigger}
    (ht : t ∈ (Trigger.sources m).map (·.trigger)) :
    ∃ e ∈ d.elements, e.isTrigger ∧ e.trigger = t := by
  rw [Trigger.map_trigger_sources, List.mem_append] at ht
  rcases ht with ht | ht
  · obtain ⟨elements, -, htriggers⟩ := bind_eq_ok.mp htriggers
    rw [triggersOf_text, ok_bind] at htriggers
    rw [← Except.ok.inj htriggers] at ht
    obtain ⟨placed, hplaced, rfl⟩ := List.mem_map.mp ht
    exact exists_of_mem_placedTriggers (List.mem_filter.mp hplaced).1
  · obtain ⟨b, hb, ht⟩ := List.mem_flatMap.mp ht
    rw [blocksOf, triggersOf_text, ok_bind] at hblocks
    obtain ⟨elements, -, hblocks⟩ := bind_eq_ok.mp hblocks
    obtain ⟨p, -, hp⟩ := exists_of_mem_mapM hblocks hb
    obtain ⟨displayCount, -, hp⟩ := bind_eq_ok.mp hp
    obtain rfl := Except.ok.inj hp
    obtain ⟨placed, hplaced, rfl⟩ := List.mem_map.mp ht
    exact exists_of_mem_placedTriggers (List.mem_filter.mp hplaced).1

/-- Where blocks and items are not nested in their like, the triggers of a form that is read are
those that are listed. -/
theorem map_trigger_sources {m : Module} {tokens : List String} {skipped : String → Bool}
    {items : List (Placed Item)} (hitems : itemsOf d.text = .ok items)
    (hblocks : blocksOf tokens skipped items d.text = .ok m.blocks)
    (htriggers : formTriggersOf items d.text = .ok m.triggers) (hflat : d.Flat "Block")
    (hflatItems : d.Flat "Item") :
    (Trigger.sources m).map (·.trigger) = (d.listedTriggers skipped).map Element.trigger := by
  have hunder : m.blocks.flatMap (·.triggers) =
      (m.blocks.map (fun b => (b.name, b.triggers))).flatMap (·.2) := by
    rw [List.flatMap_map]
  rw [Trigger.map_trigger_sources, hunder, map_triggers_blocksOf hflat hblocks,
    eq_of_formTriggersOf hflat hflatItems hitems htriggers, List.flatMap_map, listedTriggers,
    List.map_append, List.map_map, List.map_flatMap]
  rfl

/-- The programs of a form can be decoded if those of the listed triggers can. -/
theorem legible_sources {m : Module} {es : List Element}
    (h : (Trigger.sources m).map (·.trigger) = es.map Element.trigger)
    (hes : ∀ e ∈ es, Text.Legible e.program.toList) :
    ∀ x ∈ Trigger.sources m, Text.Legible x.trigger.body.toList := by
  intro x hx
  have hmem : x.trigger ∈ es.map Element.trigger := h ▸ List.mem_map_of_mem hx
  obtain ⟨e, he, heq⟩ := List.mem_map.mp hmem
  rw [← heq, e.body_trigger]
  exact hes e he

end Document

/-- **The program of a trigger is decoded twice.** A printed document is read unless an integer in
it has more digits than are read, and then its triggers are analysed unless the value of an
attribute with a program has a decimal reference of more digits. Every trigger that the analysis
lists is one of the document, under its name. The program that is analysed is what the value of its
attribute decodes to in its turn: the value itself if every ampersand in it begins no reference or
one that is read as it is written, and a program if the value is its escaped form. In a document in
which no block contains a block and no item an item, these are the triggers of the form and of the
listed blocks, in this order. -/
theorem all_ofModule_decoded (s : Settings) (d : Document) {skipped : String → Bool}
    {labels : List String} (hskipped : s.skippedBlocks = .ok skipped)
    (hlabels : s.systemLabels = .ok labels) :
    OkIff (Module.read s (String.ofList d.text)) (d.InLimit skipped) ∧
    ∀ m, Module.read s (String.ofList d.text) = .ok m →
      OkIff (Trigger.Section.ofModule m)
        (∀ x ∈ Trigger.sources m, Text.Legible x.trigger.body.toList) ∧
      (∀ analysis, Trigger.Section.ofModule m = .ok analysis →
        ∀ a ∈ analysis.all, ∃ e ∈ d.elements, e.isTrigger ∧
          a.name = e.givenName ∧
          Text.unescape e.program = .ok a.body ∧
          (Text.KeepsReferences e.program.toList → a.body = e.program) ∧
          ∀ program, e.program = String.ofList (Text.escapedText program.toList) →
            a.body = program) ∧
      (d.Flat "Block" → d.Flat "Item" →
        (Trigger.sources m).map (·.trigger) = (d.listedTriggers skipped).map Element.trigger ∧
        ∀ analysis, Trigger.Section.ofModule m = .ok analysis →
          analysis.all.map (fun a => (a.name, Except.ok a.body)) =
            (d.listedTriggers skipped).map (fun e => (e.givenName, Text.unescape e.program))) := by
  refine ⟨Document.okIff_read_text hskipped hlabels d, fun m hm => ?_⟩
  obtain ⟨items, hitems, hblocks, htriggers⟩ := parts_read hskipped hlabels hm
  rw [String.toList_ofList] at hitems hblocks htriggers
  refine ⟨Trigger.okIff_ofModule m, fun analysis hanalysis a ha => ?_,
    fun hflat hflatItems => ?_⟩
  · have hanalysed : (a.name, Except.ok a.body) ∈
        ((Trigger.sources m).map (·.trigger)).map (fun t => (t.name, Text.unescape t.body)) := by
      rw [← map_body_all hanalysis]
      exact List.mem_map_of_mem ha
    obtain ⟨t, ht, hshown⟩ := List.mem_map.mp hanalysed
    obtain ⟨e, he, htrigger, rfl⟩ := Document.exists_of_mem_sources hblocks htriggers ht
    rw [e.name_trigger, e.body_trigger] at hshown
    obtain ⟨hname, hbody⟩ := Prod.mk.inj hshown
    refine ⟨e, he, htrigger, hname.symm, hbody, fun hkeeps => ?_, fun program hescaped => ?_⟩
    · rw [Text.unescape_of_keeps hkeeps] at hbody
      exact (Except.ok.inj hbody).symm
    · rw [hescaped, Text.unescape_escapedText] at hbody
      exact (Except.ok.inj hbody).symm
  · have hsources := Document.map_trigger_sources hitems hblocks htriggers hflat hflatItems
    refine ⟨hsources, fun analysis hanalysis => ?_⟩
    rw [map_body_all hanalysis, hsources, List.map_map]
    refine List.map_congr_left fun e _ => ?_
    rw [Function.comp_apply, e.name_trigger, e.body_trigger]

/-- A form with one trigger of a program. -/
def formWith (program : String) : Document :=
  let none : Blanks := Trigger.noBlanks
  let valued : (name : List Char) → (!name.isEmpty && name.all isAttributeChar) = true →
      String → Attribute := fun name h value =>
    { gap := Run.of [' '] rfl, name := ⟨.none, Run.of name h⟩, value }
  let title : String → Attribute := valued "Name".toList rfl
  let form : OpenTag :=
    { name := ⟨.none, Run.of "FormModule".toList rfl⟩
      first := title "F", more := [], tail := none }
  let trigger : OpenTag :=
    { name := ⟨.none, triggerName⟩
      first := title "PRE-FORM", more := [valued "TriggerText".toList rfl program], tail := none }
  ⟨none, [.node form none [.node trigger none [] none] none]⟩

/-- A program without ampersands is analysed as it is. -/
theorem all_ofModule_decoded_plain :
    let program := "p_note;"
    ∃ m analysis, Module.read .builtin (String.ofList (formWith program).text) = .ok m ∧
      Trigger.Section.ofModule m = .ok analysis ∧
      analysis.all.map (fun a => (a.name, a.body)) = [("PRE-FORM", program)] := by
  intro program
  let d := formWith program
  obtain ⟨hread, hall⟩ := all_ofModule_decoded .builtin d skippedBlocks_builtin rfl
  obtain ⟨_, hlovs, -⟩ := map_toOption_eq_some.mp
    (show (filledLovsOf d.text).toOption.map List.length = some 0 by decide +kernel)
  obtain ⟨m, hm⟩ := hread.ok
    ⟨by decide +kernel, by decide +kernel, (okIff_filledLovsOf d.text).of_ok hlovs⟩
  obtain ⟨hanalysed, -, hlisted⟩ := hall m hm
  obtain ⟨hsources, hshown⟩ := hlisted (by decide +kernel) (by decide +kernel)
  have hplain : '&' ∉ program.toList := by decide
  have hprogram := (Text.legible_append hplain).mpr Text.legible_nil
  rw [List.append_nil] at hprogram
  have hprograms : ∀ e ∈ d.listedTriggers skippedBuiltin, e.program = program := by decide +kernel
  obtain ⟨analysis, hanalysis⟩ := hanalysed.ok
    (Document.legible_sources hsources fun e he => hprograms e he ▸ hprogram)
  have hbodies := congrArg (List.map (fun p => (p.1, p.2.toOption.getD "")))
    (hshown analysis hanalysis)
  rw [List.map_map] at hbodies
  exact ⟨m, analysis, hm, hanalysis, hbodies.trans (by decide +kernel)⟩

/-- A program with what looks like a reference is not analysed as it is. -/
theorem exists_program_decoded_again :
    let program := "p_note; -- R&amp;D"
    String.ofList (formWith program).text =
        "<FormModule Name=\"F\"><Trigger Name=\"PRE-FORM\" " ++
          "TriggerText=\"p_note; -- R&amp;amp;D\"/></FormModule>" ∧
      (formWith program).elements.filterMap (·.attributes.find? "TriggerText") = [program] ∧
      ∃ m analysis, Module.read .builtin (String.ofList (formWith program).text) = .ok m ∧
        Trigger.Section.ofModule m = .ok analysis ∧
        analysis.all.map (·.body) = ["p_note; -- R&D"] := by
  intro program
  let d := formWith program
  obtain ⟨_, hlovs, -⟩ := map_toOption_eq_some.mp
    (show (filledLovsOf d.text).toOption.map List.length = some 0 by decide +kernel)
  obtain ⟨m, hm⟩ := (Document.okIff_read_text skippedBlocks_builtin rfl d).ok
    ⟨by decide +kernel, by decide +kernel, (okIff_filledLovsOf d.text).of_ok hlovs⟩
  obtain ⟨items, hitems, hblocks, htriggers⟩ := parts_read skippedBlocks_builtin rfl hm
  rw [String.toList_ofList] at hitems hblocks htriggers
  have hsources := Document.map_trigger_sources hitems hblocks htriggers (by decide +kernel)
    (by decide +kernel)
  obtain ⟨_, hprogram, -⟩ := map_toOption_eq_some.mp
    (show (Text.unescape program).toOption.map id = some "p_note; -- R&D" by decide +kernel)
  have hprograms : ∀ e ∈ d.listedTriggers skippedBuiltin, e.program = program := by decide +kernel
  obtain ⟨analysis, hanalysis⟩ := (Trigger.okIff_ofModule m).ok
    (Document.legible_sources hsources fun e he =>
      hprograms e he ▸ (Text.okIff_unescape program).of_ok hprogram)
  have hbodies := congrArg (List.map (fun p => p.2.toOption.getD "")) (map_body_all hanalysis)
  rw [hsources, List.map_map] at hbodies
  exact ⟨by decide +kernel, by decide +kernel, m, analysis, hm, hanalysis,
    hbodies.trans (by decide +kernel)⟩

end Formwork.Form
