import Mathlib.Data.List.Basic
import Formwork.Text.Reference

/-!
# Escaped texts

Markup writes ampersands, angle brackets and double quotes as references. Decoding gives the text
back whatever it is, also where it looks like a reference itself.
-/
namespace Formwork.Text

/-- A character as markup writes it between double quotes. -/
def escapedChar : Char → List Char
  | '&' => "&amp;".toList
  | '<' => "&lt;".toList
  | '>' => "&gt;".toList
  | '\x22' => "&quot;".toList
  | c => [c]

/-- A text as markup writes it between double quotes. -/
def escapedText (cs : List Char) : List Char :=
  cs.flatMap escapedChar

/-- A character is written as the reference that stands for it, or as it is. -/
theorem escapedChar_cases (c : Char) :
    (∃ name, (name, [c]) ∈ markupReferences ∧ escapedChar c = '&' :: name) ∨
      escapedChar c = [c] ∧ c ≠ '&' ∧ c ≠ '<' ∧ c ≠ '>' ∧ c ≠ '\x22' := by
  unfold escapedChar
  split
  · exact Or.inl ⟨"amp;".toList, by simp [markupReferences], rfl⟩
  · exact Or.inl ⟨"lt;".toList, by simp [markupReferences], rfl⟩
  · exact Or.inl ⟨"gt;".toList, by simp [markupReferences], rfl⟩
  · exact Or.inl ⟨"quot;".toList, by simp [markupReferences], rfl⟩
  · next hamp hlt hgt hquote => exact Or.inr ⟨rfl, hamp, hlt, hgt, hquote⟩

/-- The references of markup are read whole, and nothing of what follows with them. -/
theorem readReference_append {name value : List Char} (h : (name, value) ∈ markupReferences)
    (rest : List Char) : readReference (name ++ rest) = .ok (some (value, rest)) := by
  simp only [markupReferences, List.mem_cons, Prod.mk.injEq, List.not_mem_nil, or_false] at h
  rcases h with ⟨rfl, rfl⟩ | ⟨rfl, rfl⟩ | ⟨rfl, rfl⟩ | ⟨rfl, rfl⟩
  · rfl
  · rfl
  · rfl
  · rfl

theorem decodeReferences_escapedChar (c : Char) (rest : List Char) :
    decodeReferences (escapedChar c ++ rest) = (decodeReferences rest).map (c :: ·) := by
  rcases escapedChar_cases c with ⟨name, hname, heq⟩ | ⟨heq, hamp, -⟩
  · have hshorter : rest.length < ('&' :: (name ++ rest)).length := by
      rw [List.length_cons, List.length_append]
      omega
    rw [heq, List.cons_append, decodeReferences, if_pos (by decide), readReference_append hname]
    exact if_pos hshorter
  · have hplain : ¬ (c == '&') = true := by rwa [beq_iff_eq]
    rw [heq, List.singleton_append, decodeReferences, if_neg hplain]

/-- Decoding an escaped text gives the text. -/
theorem decodeReferences_escapedText (cs : List Char) :
    decodeReferences (escapedText cs) = .ok cs := by
  induction cs with
  | nil => rw [escapedText, List.flatMap_nil, decodeReferences]
  | cons c cs ih =>
    rw [escapedText, List.flatMap_cons, decodeReferences_escapedChar, ← escapedText, ih]
    rfl

theorem unescape_escapedText (s : String) :
    unescape (String.ofList (escapedText s.toList)) = .ok s := by
  rw [unescape, String.toList_ofList, decodeReferences_escapedText, Except.map,
    String.ofList_toList]

/-- What ends a value or a tag stands nowhere in an escaped text. -/
theorem ne_of_mem_escapedText {c : Char} {cs : List Char} (h : c ∈ escapedText cs) :
    c ≠ '<' ∧ c ≠ '>' ∧ c ≠ '\x22' := by
  have hreferences : ∀ r ∈ markupReferences, ∀ d ∈ '&' :: r.1, d ≠ '<' ∧ d ≠ '>' ∧ d ≠ '\x22' := by
    simp [markupReferences]
  obtain ⟨d, -, hc⟩ := List.mem_flatMap.mp h
  rcases escapedChar_cases d with ⟨name, hname, heq⟩ | ⟨heq, -, hplain⟩
  · exact hreferences _ hname c (heq ▸ hc)
  · obtain rfl := List.mem_singleton.mp (heq ▸ hc)
    exact hplain

/-! ## Texts that decoding keeps -/

/-- Every ampersand of a text begins no reference, or one that is read as it is written. -/
def KeepsReferences (cs : List Char) : Prop :=
  ∀ rest, '&' :: rest <:+ cs →
    readReference rest = .ok none ∨
      ∃ value after, readReference rest = .ok (some (value, after)) ∧ value ++ after = '&' :: rest

theorem KeepsReferences.suffix {cs rest : List Char} (h : KeepsReferences cs)
    (hrest : rest <:+ cs) : KeepsReferences rest :=
  fun more hmore => h more (hmore.trans hrest)

theorem decodeReferences_of_keeps {cs : List Char} (h : KeepsReferences cs) :
    decodeReferences cs = .ok cs := by
  fun_induction decodeReferences cs with
  | case1 => rfl
  | case2 c rest hamp e hread =>
    obtain rfl := beq_iff_eq.mp hamp
    rcases h rest (List.suffix_refl _) with hnone | ⟨value, after, hsome, -⟩
    · rw [hread] at hnone
      cases hnone
    · rw [hread] at hsome
      cases hsome
  | case3 c rest hamp value after hread hshorter ih =>
    obtain rfl := beq_iff_eq.mp hamp
    rcases h rest (List.suffix_refl _) with hnone | ⟨value', after', hsome, hkept⟩
    · rw [hread] at hnone
      cases hnone
    · rw [hread] at hsome
      obtain ⟨rfl, rfl⟩ := Prod.mk.inj (Option.some.inj (Except.ok.inj hsome))
      have hafter : after <:+ '&' :: rest := ⟨value, hkept⟩
      rw [ih (h.suffix hafter), Except.map, hkept]
  | case4 c rest hamp value after hread hshorter ih =>
    rw [ih (h.suffix (List.suffix_cons c rest)), Except.map]
  | case5 c rest hamp hread ih => rw [ih (h.suffix (List.suffix_cons c rest)), Except.map]
  | case6 c rest hamp ih => rw [ih (h.suffix (List.suffix_cons c rest)), Except.map]

theorem unescape_of_keeps {s : String} (h : KeepsReferences s.toList) : unescape s = .ok s := by
  rw [unescape, decodeReferences_of_keeps h, Except.map, String.ofList_toList]

end Formwork.Text
