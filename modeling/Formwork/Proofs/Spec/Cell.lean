import Mathlib.Algebra.GroupWithZero.Nat
import Formwork.Spec.Markdown
import Formwork.Proofs.Schema.Statement

/-!
# Rows of Markdown tables

A row has a bar before its first cell and one behind every cell. It has no other bars that count,
and is one line, exactly where this holds of all its cells. A text that is written as a cell is one
line, and a backslash stands before each of its bars; whether that escapes the bar depends on what
a backslash before the backslash does, and there readers of Markdown differ.
-/
namespace Formwork.Spec.Markdown

/-- How many bars of a line count, the character before it being a backslash that escapes or not.
Where backslashes are `paired`, one that is escaped itself escapes nothing. -/
def bars (paired : Bool) : Bool → List Char → Nat
  | _, [] => 0
  | escaped, c :: cs =>
    (if c == '|' && !escaped then 1 else 0) + bars paired (c == '\\' && !(paired && escaped)) cs

/-- A text without line ends. -/
def OneLine (s : String) : Prop :=
  '\n' ∉ s.toList ∧ '\r' ∉ s.toList

/-- One line without bars that count. -/
def Inline (paired : Bool) (s : String) : Prop :=
  OneLine s ∧ bars paired false s.toList = 0

/-- One line with as many bars that count as the head of its table. -/
def SameShape (paired : Bool) (head line : String) : Prop :=
  OneLine line ∧ bars paired false line.toList = bars paired false head.toList

section Bars

variable {paired escaped : Bool} {cs : List Char}

theorem bars_eq_zero_of_notMem (h : '|' ∉ cs) : bars paired escaped cs = 0 := by
  induction cs generalizing escaped with
  | nil => rfl
  | cons c cs ih =>
    obtain ⟨hc, hcs⟩ := List.ne_and_not_mem_of_not_mem_cons h
    simp [bars, ih hcs, Ne.symm hc]

/-- A backslash before a space escapes no bar behind it. -/
theorem bars_append_space (cs ds : List Char) :
    bars paired escaped (cs ++ ' ' :: ds) = bars paired escaped cs + bars paired false ds := by
  induction cs generalizing escaped with
  | nil => simp [bars]
  | cons c cs ih => rw [List.cons_append, bars, bars, ih, Nat.add_assoc]

end Bars

/-! ## Rows -/

section Rows

variable {paired : Bool} {cells head : List String}

/-- The text of a cell in its row, with the bar behind it. -/
def inRow (s : String) : List Char :=
  ' ' :: (s.toList ++ [' ', '|'])

theorem toList_row (h : cells ≠ []) : (row cells).toList = '|' :: cells.flatMap inRow := by
  have hcells : ' ' :: ([' ', '|', ' '].intercalate (cells.map String.toList) ++ [' ', '|']) =
      cells.flatMap inRow := by
    induction cells with
    | nil => exact absurd rfl h
    | cons c cells ih =>
      cases cells with
      | nil => simp [inRow]
      | cons d cells =>
        rw [List.flatMap_cons, ← ih (by simp), List.map_cons, List.map_cons,
          List.intercalate_cons_cons]
        simp [inRow]
  rw [row, String.toList_append, String.toList_append, String.toList_intercalate, ← hcells]
  rfl

theorem bars_flatMap_inRow (cells : List String) : bars paired false (cells.flatMap inRow) =
    cells.length + (cells.map (fun c => bars paired false c.toList)).sum := by
  induction cells with
  | nil => rfl
  | cons c cells ih =>
    have hcell : inRow c ++ cells.flatMap inRow =
        [] ++ ' ' :: (c.toList ++ ' ' :: '|' :: cells.flatMap inRow) := by simp [inRow]
    have hbar : bars paired false ('|' :: cells.flatMap inRow) =
        1 + bars paired false (cells.flatMap inRow) := rfl
    rw [List.flatMap_cons, hcell, bars_append_space, bars_append_space, hbar, ih, List.length_cons,
      List.map_cons, List.sum_cons]
    simp only [bars]
    omega

theorem bars_row (h : cells ≠ []) : bars paired false (row cells).toList =
    1 + cells.length + (cells.map (fun c => bars paired false c.toList)).sum := by
  have hbar : bars paired false ('|' :: cells.flatMap inRow) =
      1 + bars paired false (cells.flatMap inRow) := rfl
  rw [toList_row h, hbar, bars_flatMap_inRow, Nat.add_assoc]

theorem oneLine_row (h : cells ≠ []) : OneLine (row cells) ↔ ∀ c ∈ cells, OneLine c := by
  have hmem : ∀ d, d ≠ '|' → d ≠ ' ' → (d ∉ (row cells).toList ↔ ∀ c ∈ cells, d ∉ c.toList) := by
    intro d hbar hspace
    simp [toList_row h, inRow, hbar, hspace]
  rw [OneLine, hmem '\n' (by decide) (by decide), hmem '\r' (by decide) (by decide),
    ← forall₂_and]
  rfl

/-- A row with as many cells as the head has its shape where its cells are inline. -/
theorem sameShape_row_iff (hne : head ≠ []) (hlength : cells.length = head.length)
    (hhead : ∀ s ∈ head, bars paired false s.toList = 0) :
    SameShape paired (row head) (row cells) ↔ ∀ c ∈ cells, Inline paired c := by
  have hcells : cells ≠ [] := by
    rintro rfl
    exact hne (List.length_eq_zero_iff.mp hlength.symm)
  have hzero : ∀ l : List String, (l.map (fun c => bars paired false c.toList)).sum = 0 ↔
      ∀ c ∈ l, bars paired false c.toList = 0 := by
    intro l
    rw [List.sum_eq_zero_iff_forall_eq_nat, List.forall_mem_map]
  rw [SameShape, oneLine_row hcells, bars_row hcells, bars_row hne, (hzero head).mpr hhead,
    hlength]
  constructor
  · rintro ⟨hline, hbars⟩ c hc
    exact ⟨hline c hc, (hzero cells).mp (by omega) c hc⟩
  · intro h
    exact ⟨fun c hc => (h c hc).1, by rw [(hzero cells).mpr fun c hc => (h c hc).2]⟩

end Rows

/-! ## Cells -/

/-- Neither a bar nor a line end. -/
def isInline (c : Char) : Bool :=
  c != '|' && c != '\n' && c != '\r'

theorem inline_of_all {paired : Bool} {s : String} (h : s.toList.all isInline = true) :
    Inline paired s := by
  have hnot : ∀ c, isInline c = false → c ∉ s.toList := by
    intro c hc hmem
    rw [List.all_eq_true.mp h c hmem] at hc
    cases hc
  exact ⟨⟨hnot '\n' (by decide), hnot '\r' (by decide)⟩,
    bars_eq_zero_of_notMem (hnot '|' (by decide))⟩

theorem all_isInline_toString (i : Int) : (toString i).toList.all isInline = true := by
  obtain ⟨digits, -, hdigits, htext⟩ := Schema.exists_digits i
  have hdecimal : Schema.decimalDigits.all isInline = true := by decide
  have hinline : ∀ c ∈ digits, isInline c = true :=
    fun c hc => List.all_eq_true.mp hdecimal c (hdigits c hc)
  rw [List.all_eq_true]
  rcases htext with htext | htext
  · rw [htext]
    exact hinline
  · rw [htext, List.forall_mem_cons]
    exact ⟨by decide, hinline⟩

/-- What a table has in a cell. -/
inductive Cell where
  /-- A word of the document itself, or a number. -/
  | fixed (s : String) (inline : s.toList.all isInline = true)
  /-- A text as it stands. -/
  | plain (s : String)
  /-- A text whose bars are escaped and whose line ends are kept in the line. -/
  | escaped (s : String)

/-- No bar of a text stands behind a backslash that would escape it. Carriage returns, which are not
written, do not come between the two. -/
def BarsBare (s : String) : Prop :=
  bars true false (s.toList.filter (· != '\r')) = s.toList.count '|'

namespace Cell

def text : Cell → String
  | fixed s _ => s
  | plain s => s
  | escaped s => cell s

/-- What must hold of a cell for its row to keep the shape of the table. -/
def Fits (paired : Bool) : Cell → Prop
  | fixed _ _ => True
  | plain s => Inline paired s
  | escaped s => paired = true → BarsBare s

end Cell

/-- The characters of a cell that is not empty. -/
def cellText (cs : List Char) : List Char :=
  cs.flatMap (fun c => (cellChar c).toList)

theorem toList_cell (s : String) :
    (cell s).toList = if s.toList = [] then ['-'] else cellText s.toList := by
  rw [cell]
  by_cases h : s = ""
  · simp [h]
  · rw [if_neg (by simpa using h), if_neg (by simpa using h), String.toList_join, List.flatMap_map]
    rfl

/-- How a character is written in a cell. -/
theorem toList_cellChar_cases (c : Char) :
    (c = '|' ∧ (cellChar c).toList = ['\\', '|']) ∨ (c = '\r' ∧ (cellChar c).toList = []) ∨
      (c = '\n' ∧ (cellChar c).toList = "<br>".toList) ∨
      (isInline c = true ∧ (cellChar c).toList = [c]) := by
  unfold cellChar
  split
  · exact Or.inl ⟨rfl, rfl⟩
  · exact Or.inr (Or.inl ⟨rfl, rfl⟩)
  · exact Or.inr (Or.inr (Or.inl ⟨rfl, rfl⟩))
  · next hbar hreturn hline =>
    refine Or.inr (Or.inr (Or.inr ⟨?_, String.toList_singleton c⟩))
    simp only [isInline, Bool.and_eq_true, bne_iff_ne]
    exact ⟨⟨hbar, hline⟩, hreturn⟩

theorem isInline_iff {c : Char} : isInline c = true ↔ c ≠ '|' ∧ c ≠ '\n' ∧ c ≠ '\r' := by
  simp [isInline, and_assoc]

theorem cellText_cons (c : Char) (cs : List Char) :
    cellText (c :: cs) = (cellChar c).toList ++ cellText cs :=
  List.flatMap_cons

theorem oneLine_cell (s : String) : OneLine (cell s) := by
  have hchar : ∀ c, ∀ d ∈ (cellChar c).toList, d ≠ '\n' ∧ d ≠ '\r' := by
    intro c
    rcases toList_cellChar_cases c with ⟨-, h⟩ | ⟨-, h⟩ | ⟨-, h⟩ | ⟨hinline, h⟩
    · simp [h]
    · simp [h]
    · simp [h]
    · rw [h, List.forall_mem_singleton]
      exact (isInline_iff.mp hinline).2
  have hall : ∀ d ∈ (cell s).toList, d ≠ '\n' ∧ d ≠ '\r' := by
    rw [toList_cell]
    split
    · simp
    · intro d hd
      obtain ⟨c, -, hd⟩ := List.mem_flatMap.mp hd
      exact hchar c d hd
  exact ⟨fun h => (hall _ h).1 rfl, fun h => (hall _ h).2 rfl⟩

/-- The backslash that a cell puts before a bar escapes it, if no other can escape the backslash. -/
theorem bars_cellText (cs : List Char) (escaped : Bool) :
    bars false escaped (cellText cs) = 0 := by
  induction cs generalizing escaped with
  | nil => rfl
  | cons c cs ih =>
    rw [cellText_cons]
    rcases toList_cellChar_cases c with ⟨-, h⟩ | ⟨-, h⟩ | ⟨-, h⟩ | ⟨hinline, h⟩
    · simp [h, bars, ih]
    · simp [h, ih]
    · simp [h, bars, ih]
    · simp [h, bars, ih, (isInline_iff.mp hinline).1]

/-- If backslashes are paired, a bar counts in a cell where it was escaped in the text. -/
theorem bars_cellText_paired (cs : List Char) (escaped : Bool) :
    bars true escaped (cellText cs) + bars true escaped (cs.filter (· != '\r')) =
      cs.count '|' := by
  induction cs generalizing escaped with
  | nil => rfl
  | cons c cs ih =>
    rw [cellText_cons]
    rcases toList_cellChar_cases c with ⟨rfl, h⟩ | ⟨rfl, h⟩ | ⟨rfl, h⟩ | ⟨hinline, h⟩
    · have hrest := ih false
      cases escaped <;> simp [h, bars] <;> omega
    · simpa [h] using ih escaped
    · simpa [h, bars] using ih false
    · obtain ⟨hbar, -, hreturn⟩ := isInline_iff.mp hinline
      simpa [h, bars, hbar, hreturn] using ih (c == '\\' && !escaped)

theorem bars_cell_eq_zero_iff {paired : Bool} {s : String} :
    bars paired false (cell s).toList = 0 ↔ (paired = true → BarsBare s) := by
  rw [toList_cell, BarsBare]
  split
  · next hnil => simp [hnil, bars]
  · cases paired with
    | false => simp [bars_cellText]
    | true =>
      have hcount := bars_cellText_paired s.toList false
      simp only [true_implies]
      omega

/-- A cell fits exactly where its text has neither line ends nor bars that count. -/
theorem Cell.inline_text_iff {paired : Bool} {c : Cell} :
    Inline paired c.text ↔ c.Fits paired := by
  cases c with
  | fixed s hinline => exact iff_of_true (inline_of_all hinline) trivial
  | plain s => exact Iff.rfl
  | escaped s => exact (and_iff_right (oneLine_cell s)).trans bars_cell_eq_zero_iff

end Formwork.Spec.Markdown
