import Mathlib.Data.List.Infix
import Formwork.Proofs.Row.Sound
import Formwork.Proofs.Schema.Statement
import Formwork.Schema.Script

/-!
# The parts of a script

A script is a list of lines, each ended by a line feed: comments at its start, the lines of the
statements one after the other, and the COMMIT with the comments around it.
-/
namespace Formwork.Schema

/-- The characters of lines, each with its end. -/
def terminated (lines : List String) : List Char :=
  lines.flatMap (fun line => line.toList ++ ['\n'])

theorem terminated_cons (line : String) (lines : List String) :
    terminated (line :: lines) = line.toList ++ '\n' :: terminated lines := by
  rw [terminated, List.flatMap_cons, List.append_assoc]
  rfl

theorem terminated_append (lines lines' : List String) :
    terminated (lines ++ lines') = terminated lines ++ terminated lines' :=
  List.flatMap_append

theorem terminated_flatMap {α : Type} (f : α → List String) (l : List α) :
    terminated (l.flatMap f) = l.flatMap (fun a => terminated (f a)) :=
  List.flatMap_assoc

theorem toList_intercalate_lines {lines : List String} (h : lines ≠ []) :
    (String.intercalate "\n" lines ++ "\n").toList = terminated lines := by
  rw [String.toList_append, String.toList_intercalate]
  induction lines with
  | nil => exact absurd rfl h
  | cons line lines ih =>
    cases lines with
    | nil => rw [List.map_cons, List.map_nil, List.intercalate_singleton, terminated_cons]; rfl
    | cons line' lines =>
      rw [terminated_cons, ← ih (by simp), List.map_cons, List.map_cons,
        List.intercalate_cons_cons, List.append_assoc, List.append_assoc]
      rfl

/-- The time that a script shows. -/
def shownTime (time : String) : String :=
  if time == "" then defaultTime else time

/-- The lines between the comments at the start and those at the end. -/
def bodyLines (ts : List Statement) : List String :=
  if ts.isEmpty then [] else statementsOpening ++ ts.flatMap statementLines

theorem toList_render (record time : String) (ts : List Statement) :
    (render record time ts).toList =
      terminated (opening record (shownTime time)) ++ terminated (bodyLines ts) ++
        terminated closing := by
  have hne : opening record (shownTime time) ++ bodyLines ts ++ closing ≠ [] := by
    simp [opening]
  rw [← terminated_append, ← terminated_append, ← toList_intercalate_lines hne]
  rfl

/-- A line that is empty or a comment. -/
def IsComment (line : String) : Prop :=
  line = "" ∨ ['-', '-'] <+: line.toList

instance (line : String) : Decidable (IsComment line) :=
  inferInstanceAs (Decidable (_ ∨ _))

theorem isComment_append {start : String} (h : ['-', '-'] <+: start.toList) (text : String) :
    IsComment (start ++ text) := by
  refine Or.inr ?_
  rw [String.toList_append]
  exact h.trans (List.prefix_append _ _)

/-- All lines at the start of a script are fixed but those that show the record and the time. -/
theorem forall_mem_opening {P : String → Prop} {record time : String}
    (h : ∀ line ∈ opening "" "", P line) (hrecord : P ("-- Generated for MBO: " ++ record))
    (htime : P ("-- Generated at: " ++ time)) : ∀ line ∈ opening record time, P line := by
  simp only [opening, List.forall_mem_cons] at h ⊢
  obtain ⟨h₁, h₂, -, -, hlater⟩ := h
  exact ⟨h₁, h₂, hrecord, htime, hlater⟩

theorem isComment_of_mem_opening {record time : String} :
    ∀ line ∈ opening record time, IsComment line := by
  have hfixed : ∀ line ∈ opening "" "", IsComment line := by
    simp only [opening, banner, IsComment, List.forall_mem_cons, String.toList_append]
    repeat rw [String.toList_ofList]
    simp
  have hfor : ['-', '-'] <+: "-- Generated for MBO: ".toList := by
    rw [String.toList_ofList]
    simp
  have hat : ['-', '-'] <+: "-- Generated at: ".toList := by
    rw [String.toList_ofList]
    simp
  exact forall_mem_opening hfixed (isComment_append hfor _) (isComment_append hat _)

theorem isComment_of_mem_statementsOpening : ∀ line ∈ statementsOpening, IsComment line := by
  simp only [statementsOpening, banner, IsComment, List.forall_mem_cons, String.toList_append]
  repeat rw [String.toList_ofList]
  simp

/-- The lines before and behind the COMMIT are comments. -/
theorem isComment_of_mem_closing : ∀ line ∈ closing.take 3 ++ closing.drop 4, IsComment line := by
  simp only [closing, banner, IsComment, List.take_succ_cons, List.take_zero, List.drop_succ_cons,
    List.drop_zero, List.forall_mem_append, List.forall_mem_cons, String.toList_append]
  repeat rw [String.toList_ofList]
  simp

/-- No line of fixed text is broken. -/
theorem notMem_fixedLines :
    ∀ line ∈ opening "" "" ++ statementsOpening ++ closing, '\n' ∉ line.toList := by
  simp only [opening, statementsOpening, closing, banner, List.forall_mem_append,
    List.forall_mem_cons, String.toList_append]
  repeat rw [String.toList_ofList]
  simp

theorem content_scriptOf (s : Settings) (m : Metadata) (time : String) (rows : List Row) :
    (scriptOf s m time rows).content =
      render m.recordName.plain time (scriptOf s m time rows).statements :=
  rfl

theorem okIff_write (s : Settings) (m : Metadata) (time : String) (rows : List Row) :
    OkIff (write s m time rows) (∀ t ∈ (statements s m rows).1, t.isOverlong = false) :=
  (okIff_stage s m rows).map _

/-- The script for rows is generated unless something keeps it from being, or a number in it cannot
be written. -/
theorem generate_eq_ok_iff {s : Settings} {m : Metadata} {time : String} {rows : List Row}
    {script : Script} : generate s m time rows = .ok script ↔ Row.blocking (some m) rows = [] ∧
      (∀ t ∈ (statements s m rows).1, t.isOverlong = false) ∧ scriptOf s m time rows = script := by
  have hwrite : write s m time rows = .ok script ↔
      (∀ t ∈ (statements s m rows).1, t.isOverlong = false) ∧ scriptOf s m time rows = script := by
    constructor
    · intro h
      obtain ⟨staged, hstaged, rfl⟩ := map_eq_ok.mp h
      exact ⟨(okIff_stage s m rows).of_ok hstaged, by rw [eq_of_stage hstaged, scriptOf]⟩
    · rintro ⟨hfits, rfl⟩
      obtain ⟨staged, hstaged⟩ := (okIff_stage s m rows).ok hfits
      exact map_eq_ok.mpr ⟨staged, hstaged, by rw [eq_of_stage hstaged, scriptOf]⟩
  rw [← Row.requireSound_eq_ok_iff, ← hwrite, generate]
  constructor
  · intro h
    obtain ⟨u, hu, h⟩ := bind_eq_ok.mp h
    exact ⟨hu, h⟩
  · rintro ⟨hsound, h⟩
    exact bind_eq_ok.mpr ⟨(), hsound, h⟩

end Formwork.Schema
