import Mathlib.Data.List.Basic
import Formwork.Proofs.Text.Match
import Formwork.Proofs.Text.Upper
import Formwork.Schema.Coverage
import Formwork.Schema.Statement

/-!
# String literals

Inside a literal a quote is written twice. Reading a literal as coverage does takes it whole, and
undoing the doubled quotes gives the text back.
-/
namespace Formwork.Schema

/-- The characters of a text inside a literal. -/
def doubled : List Char → List Char
  | [] => []
  | c :: cs => if c = '\x27' then '\x27' :: '\x27' :: doubled cs else c :: doubled cs

theorem doubled_quote (cs : List Char) :
    doubled ('\x27' :: cs) = '\x27' :: '\x27' :: doubled cs := by
  rw [doubled, if_pos rfl]

theorem doubled_cons {c : Char} (h : c ≠ '\x27') (cs : List Char) :
    doubled (c :: cs) = c :: doubled cs := by
  rw [doubled, if_neg h]

theorem toList_escaped (s : String) : (escaped s).toList = doubled s.toList := by
  rw [escaped, Text.replaceChar, String.toList_ofList]
  induction s.toList with
  | nil => rfl
  | cons c cs ih =>
    rw [List.flatMap_cons, ih]
    by_cases h : c = '\x27'
    · subst h
      rw [doubled_quote]
      rfl
    · have hne : (c == '\x27') = false := by simpa using h
      rw [doubled_cons h, hne]
      rfl

theorem toList_literal (s : String) :
    (literal s).toList = '\x27' :: (doubled s.toList ++ ['\x27']) := by
  rw [literal, String.toList_append, String.toList_append, toList_escaped]
  rfl

theorem doubled_of_notMem {cs : List Char} (h : '\x27' ∉ cs) : doubled cs = cs := by
  induction cs with
  | nil => rfl
  | cons c cs ih =>
    rw [List.mem_cons, not_or] at h
    rw [doubled_cons (Ne.symm h.1), ih h.2]

theorem escaped_of_notMem {s : String} (h : '\x27' ∉ s.toList) : escaped s = s := by
  rw [← String.toList_inj, toList_escaped, doubled_of_notMem h]

theorem mem_doubled {c : Char} {cs : List Char} : c ∈ doubled cs ↔ c ∈ cs := by
  induction cs with
  | nil => rfl
  | cons d cs ih =>
    by_cases h : d = '\x27'
    · subst h
      simp [doubled_quote, ih]
    · simp [doubled_cons h, ih]

/-- Doubled quotes are undone. -/
theorem undoubled_doubled (cs : List Char) : Coverage.undoubled (doubled cs) = cs := by
  induction cs with
  | nil => rfl
  | cons c cs ih =>
    by_cases h : c = '\x27'
    · subst h
      rw [doubled_quote, Coverage.undoubled, ih]
      rfl
    · have hne : (c == '\x27') = false := by simpa using h
      rw [doubled_cons h]
      cases hcs : doubled cs with
      | nil =>
        rw [hcs] at ih
        rw [Coverage.undoubled, ← ih]
        rfl
      | cons d ds =>
        rw [Coverage.undoubled, hne, ← hcs, ih]
        rfl

/-- The upper case of a text keeps doubled quotes. -/
theorem upper_doubled (s : String) :
    Text.upper (String.ofList (doubled (Text.upper s).toList)) =
      String.ofList (doubled (Text.upper s).toList) := by
  have hsettled : ∀ c ∈ doubled (Text.upper s).toList, Text.upperChar c = [c] := by
    intro c hc
    rw [mem_doubled, Text.upper, String.toList_ofList] at hc
    obtain ⟨d, -, hcd⟩ := List.mem_flatMap.mp hc
    exact Text.upperChar_of_isSettled ((Text.upperChar_spec d).2 c hcd)
  rw [Text.upper, String.toList_ofList, List.flatMap_congr hsettled, List.flatMap_singleton']

end Formwork.Schema

namespace Formwork.Coverage

open Schema (doubled doubled_quote doubled_cons)

variable {α : Type}

/-- A literal is read up to the first quote that is not doubled. -/
theorem literalRun_doubled {k : List Char → Text.Match.Rest α} {cs rest : List Char} {a : α}
    (hrest : ∀ c ∈ rest.head?, c ≠ '\x27') (h : k (doubled cs) ('\x27' :: rest) = some a) :
    literalRun k (doubled cs ++ '\x27' :: rest) = some a := by
  induction cs generalizing k with
  | nil =>
    cases rest with
    | nil => exact h
    | cons d rest =>
      have hd : (d == '\x27') = false := by simpa using hrest d rfl
      rw [doubled, List.nil_append, literalRun, hd]
      exact h
  | cons c cs ih =>
    by_cases hc : c = '\x27'
    · subst hc
      rw [doubled_quote] at h ⊢
      rw [List.cons_append, List.cons_append, literalRun, ih h]
      rfl
    · have hne : (c == '\x27') = false := by simpa using hc
      rw [doubled_cons hc] at h ⊢
      obtain ⟨d, ds, hds⟩ : ∃ d ds, doubled cs ++ '\x27' :: rest = d :: ds :=
        List.exists_cons_of_ne_nil (by simp)
      have ih := ih (k := fun run => k (c :: run)) h
      rw [hds] at ih
      rw [List.cons_append, hds, literalRun, hne, ih]
      rfl

theorem quotedLiteral_literal {k : List Char → Text.Match.Rest α} {s : String}
    {rest : List Char} {a : α} (hrest : ∀ c ∈ rest.head?, c ≠ '\x27')
    (h : k (doubled s.toList) rest = some a) :
    quotedLiteral k ((Schema.literal s).toList ++ rest) = some a := by
  rw [Schema.toList_literal, List.cons_append, List.append_assoc]
  exact literalRun_doubled hrest h

end Formwork.Coverage
