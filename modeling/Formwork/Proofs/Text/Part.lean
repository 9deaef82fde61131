import Mathlib.Data.List.Basic
import Mathlib.Data.List.Infix
import Formwork.Text.Part

/-!
# Parts of texts

A text has another as a part where the other stands in it, so parts of parts are parts, and what
stands in a text with a tail of other characters stands in the text.
-/
namespace Formwork.Text

theorem occursIn_iff {part cs : List Char} : occursIn part cs = true ↔ part <:+: cs := by
  induction cs with
  | nil => simp [occursIn]
  | cons c cs ih =>
    rw [occursIn, Bool.or_eq_true, List.isPrefixOf_iff_prefix, ih, List.infix_cons_iff]

theorem hasPart_iff {s part : String} : hasPart s part = true ↔ part.toList <:+: s.toList :=
  occursIn_iff

@[simp] theorem hasPart_self (s : String) : hasPart s s = true :=
  hasPart_iff.mpr List.infix_rfl

theorem hasPart_trans {s t part : String} (hst : hasPart s t = true) (ht : hasPart t part = true) :
    hasPart s part = true :=
  hasPart_iff.mpr ((hasPart_iff.mp ht).trans (hasPart_iff.mp hst))

theorem infix_append_iff {p : Char → Bool} {part cs tail : List Char} (hne : part ≠ [])
    (hpart : ∀ c ∈ part, p c = true) (htail : ∀ c ∈ tail, p c = false) :
    part <:+: cs ++ tail ↔ part <:+: cs := by
  constructor
  · rintro ⟨before, after, hsplit⟩
    rcases List.append_eq_append_iff.mp hsplit with ⟨left, rfl, -⟩ | ⟨left, hleft, rfl⟩
    · exact ⟨before, left, rfl⟩
    · -- The last character of the part stands in the text.
      rcases List.eq_nil_or_concat left with rfl | ⟨left, c, rfl⟩
      · rw [List.append_nil] at hleft
        exact hleft ▸ (List.suffix_append before part).isInfix
      · obtain ⟨part, d, rfl⟩ := (List.eq_nil_or_concat part).resolve_left hne
        simp only [List.concat_eq_append] at hpart hleft htail
        rw [← List.append_assoc, ← List.append_assoc] at hleft
        obtain ⟨-, hlast⟩ := List.append_inj' hleft rfl
        obtain rfl : d = c := by simpa using hlast
        have hin := hpart d (by simp)
        rw [htail d (by simp)] at hin
        cases hin
  · intro h
    exact h.trans (List.prefix_append cs tail).isInfix

end Formwork.Text
