import Mathlib.Algebra.GroupWithZero.Nat
import Mathlib.Data.List.Basic
import Formwork.Proofs.Classes
import Formwork.Proofs.Text.Reference
import Formwork.Trigger.Analysis

/-!
# The numbers of triggers

The analyses of a form are those of its triggers in one sequence, first the triggers of the form and
then those of one block after the other. The number of an analysis is its place in the sequence, so
that skipping the blocks without triggers leaves no gap. There are analyses unless a program has a
decimal reference of more digits than are read.
-/
namespace Formwork.Trigger

/-- A trigger with the place that it is listed under. -/
structure Source where
  level : Level
  block : String
  trigger : Form.Trigger

/-- The analysis of a trigger under a number. -/
def Source.analysis (number : Nat) (x : Source) : Except Error Analysis :=
  analyze x.level x.block number x.trigger

def sourcesOfBlock (b : Form.Block) : List Source :=
  b.triggers.map (fun t => ⟨.block, b.name, t⟩)

/-- The triggers of a form in the order in which they are listed. -/
def sources (m : Form.Module) : List Source :=
  m.triggers.map (fun t => ⟨.form, "", t⟩) ++ m.blocks.flatMap sourcesOfBlock

theorem map_trigger_sources (m : Form.Module) :
    (sources m).map (·.trigger) = m.triggers ++ m.blocks.flatMap (·.triggers) := by
  simp [sources, sourcesOfBlock, List.map_flatMap, Function.comp_def]

/-! ## Programs that are analysed -/

theorem okIff_analyze (level : Level) (block : String) (number : Nat) (t : Form.Trigger) :
    OkIff (analyze level block number t) (Text.Legible t.body.toList) :=
  (Text.okIff_unescape t.body).bind_ok _

theorem okIff_analyzeFrom (level : Level) (block : String) (first : Nat)
    (triggers : List Form.Trigger) :
    OkIff (analyzeFrom level block first triggers)
      (∀ t ∈ triggers, Text.Legible t.body.toList) := by
  have hread : OkIff (analyzeFrom level block first triggers)
      (∀ p ∈ triggers.zipIdx, Text.Legible p.1.body.toList) :=
    .mapM fun p _ => okIff_analyze level block (first + p.2) p.1
  refine hread.congr ?_
  conv_rhs => rw [← List.zipIdx_map_fst 0 triggers, List.forall_mem_map]

theorem okIff_analyzeBlocks (first : Nat) (blocks : List Form.Block) :
    OkIff (analyzeBlocks first blocks)
      (∀ b ∈ blocks, ∀ t ∈ b.triggers, Text.Legible t.body.toList) := by
  induction blocks generalizing first with
  | nil => exact .of_eq_ok rfl (by simp)
  | cons b blocks ih =>
    rw [analyzeBlocks, List.forall_mem_cons]
    split
    · next hempty =>
      refine (ih first).congr ?_
      rw [List.isEmpty_iff.mp hempty]
      simp
    · exact (okIff_analyzeFrom _ _ _ _).seq fun own => (ih _).bind_ok _

theorem okIff_ofModule (m : Form.Module) :
    OkIff (Section.ofModule m) (∀ x ∈ sources m, Text.Legible x.trigger.body.toList) := by
  refine OkIff.congr ((okIff_analyzeFrom _ _ _ _).seq fun form =>
    (okIff_analyzeBlocks _ _).bind_ok _) ?_
  rw [sources, List.forall_mem_append, List.forall_mem_map, List.forall_mem_flatMap]
  simp only [sourcesOfBlock, List.forall_mem_map]

/-! ## The sequence of the triggers -/

theorem map_analyzeFrom {level : Level} {block : String} {first : Nat}
    {triggers : List Form.Trigger} {as : List Analysis}
    (h : analyzeFrom level block first triggers = .ok as) :
    as.map .ok = (triggers.map (fun t => (⟨level, block, t⟩ : Source))).mapIdx
      (fun i x => x.analysis (first + i)) := by
  rw [← mapM_eq_ok.mp h]
  refine List.ext_getElem (by simp) fun i hi hj => ?_
  simp [Source.analysis]

/-- The analyses of blocks are numbered on through all of them. -/
theorem flatMap_analyzeBlocks {first : Nat} {blocks : List Form.Block}
    {listed : List (String × List Analysis)} (h : analyzeBlocks first blocks = .ok listed) :
    (listed.flatMap (·.2)).map .ok =
      (blocks.flatMap sourcesOfBlock).mapIdx (fun i x => x.analysis (first + i)) := by
  induction blocks generalizing first listed with
  | nil =>
    obtain rfl := Except.ok.inj h
    rfl
  | cons b blocks ih =>
    rw [analyzeBlocks] at h
    rw [List.flatMap_cons, List.mapIdx_append]
    have hlength : (sourcesOfBlock b).length = b.triggers.length := List.length_map _
    split at h
    · next hempty =>
      have hnone : sourcesOfBlock b = [] := by
        rw [sourcesOfBlock, List.isEmpty_iff.mp hempty, List.map_nil]
      rw [ih h, hnone]
      rfl
    · obtain ⟨own, hown, h⟩ := bind_eq_ok.mp h
      obtain ⟨others, hothers, h⟩ := bind_eq_ok.mp h
      obtain rfl := Except.ok.inj h
      have hoffset : ∀ i, first + b.triggers.length + i = first + (i + b.triggers.length) := by
        intro i
        omega
      rw [List.flatMap_cons, List.map_append, ih hothers, map_analyzeFrom hown, hlength]
      simp only [hoffset]
      rfl

theorem map_fst_analyzeBlocks {first : Nat} {blocks : List Form.Block}
    {listed : List (String × List Analysis)} (h : analyzeBlocks first blocks = .ok listed) :
    listed.map (·.1) = (blocks.filter (fun b => !b.triggers.isEmpty)).map (·.name) := by
  induction blocks generalizing first listed with
  | nil =>
    obtain rfl := Except.ok.inj h
    rfl
  | cons b blocks ih =>
    rw [analyzeBlocks] at h
    split at h
    · next hempty => rw [ih h, List.filter_cons_of_neg (by simp [hempty])]
    · next hsome =>
      obtain ⟨own, -, h⟩ := bind_eq_ok.mp h
      obtain ⟨others, hothers, h⟩ := bind_eq_ok.mp h
      obtain rfl := Except.ok.inj h
      rw [List.map_cons, ih hothers, List.filter_cons_of_pos (by simp [hsome]), List.map_cons]

namespace Section

variable {m : Form.Module} {s : Section}

/-- What the analysis of a form consists of. -/
theorem parts_ofModule (h : ofModule m = .ok s) :
    analyzeFrom .form "" 1 m.triggers = .ok s.form ∧
      analyzeBlocks (1 + m.triggers.length) m.blocks = .ok s.blocks := by
  obtain ⟨form, hform, h⟩ := bind_eq_ok.mp h
  obtain ⟨blocks, hblocks, h⟩ := bind_eq_ok.mp h
  obtain rfl := Except.ok.inj h
  exact ⟨hform, hblocks⟩

/-- The triggers are analysed one after the other, each under its number. -/
theorem map_all_ofModule (h : ofModule m = .ok s) :
    s.all.map .ok = (sources m).mapIdx (fun i x => x.analysis (1 + i)) := by
  obtain ⟨hform, hblocks⟩ := parts_ofModule h
  have hoffset : ∀ i, 1 + m.triggers.length + i = 1 + (i + m.triggers.length) := by
    intro i
    omega
  rw [all, List.map_append, map_analyzeFrom hform, flatMap_analyzeBlocks hblocks, sources,
    List.mapIdx_append, List.length_map]
  simp only [hoffset]

theorem length_form (h : ofModule m = .ok s) : s.form.length = m.triggers.length := by
  have hlength := congrArg List.length (map_analyzeFrom (parts_ofModule h).1)
  rwa [List.length_map, List.length_mapIdx, List.length_map] at hlength

theorem map_fst_blocks (h : ofModule m = .ok s) :
    s.blocks.map (·.1) = (m.blocks.filter (fun b => !b.triggers.isEmpty)).map (·.name) :=
  map_fst_analyzeBlocks (parts_ofModule h).2

theorem count_ofModule (h : ofModule m = .ok s) : s.count = (sources m).length := by
  have hlength := congrArg List.length (map_all_ofModule h)
  rwa [List.length_map, List.length_mapIdx] at hlength

/-- Each analysis is that of the trigger at its place. -/
theorem analysis_eq_ok (h : ofModule m = .ok s) {i : Nat} (hi : i < s.all.length)
    (hj : i < (sources m).length) : (sources m)[i].analysis (1 + i) = .ok s.all[i] := by
  have hall := List.getElem_of_eq (map_all_ofModule h) (i := i) (by simpa using hi)
  rw [List.getElem_map, List.getElem_mapIdx] at hall
  exact hall.symm

/-- What is shown of the analyses without their numbers is shown of the triggers. -/
theorem map_all {β : Type} {f : Analysis → β} {g : Source → β} (h : ofModule m = .ok s)
    (hshown : ∀ number x a, x.analysis number = .ok a → f a = g x) :
    s.all.map f = (sources m).map g := by
  refine List.ext_getElem (by simpa [count] using count_ofModule h) fun i hi hj => ?_
  rw [List.getElem_map, List.getElem_map]
  exact hshown _ _ _ (analysis_eq_ok h (by simpa using hi) (by simpa using hj))

/-- The numbers begin with one and leave out none. -/
theorem map_number_ofModule (h : ofModule m = .ok s) :
    s.all.map (·.number) = List.range' 1 s.count := by
  refine List.ext_getElem (by simp [count]) fun i hi hj => ?_
  rw [List.length_range', count_ofModule h] at hj
  obtain ⟨body, -, ha⟩ := bind_eq_ok.mp (analysis_eq_ok h (by simpa using hi) hj)
  rw [List.getElem_map, ← Except.ok.inj ha, List.getElem_range', Nat.one_mul]

/-- The counts of the two levels add up to the number of all triggers. -/
theorem count_eq_add (s : Section) :
    s.count = s.form.length + s.blockCount ∧
      s.blockCount = (s.blocks.map (·.2.length)).sum := by
  have hcount : s.count = s.form.length + (s.blocks.map (·.2.length)).sum := by
    rw [count, all, List.length_append, List.length_flatMap]
  rw [blockCount, hcount]
  omega

/-- The counts of the events add up to the number of all triggers. -/
theorem count_eq_sum (s : Section) : s.count = (s.countByEvent.map (·.2)).sum := by
  have hperm := flatMap_classes_perm (·.name) s.all
  rw [count, ← hperm.length_eq, List.length_flatMap, countByEvent, List.map_map]
  rfl

end Section

end Formwork.Trigger
