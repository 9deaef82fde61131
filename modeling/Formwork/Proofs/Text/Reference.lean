import Mathlib.Data.List.TakeWhile
import Formwork.Proofs.Limit
import Formwork.Proofs.Text.Match
import Formwork.Text.Reference

/-!
# Texts that are decoded

Decoding looks at every ampersand of a text, since what a reference takes contains no other one. So
a text is decoded exactly if no ampersand begins a decimal reference of more digits than are read.
-/
namespace Formwork.Text

/-- Behind an ampersand, no number of more digits than are read follows. -/
def LegibleBehind (cs : List Char) : Prop :=
  ∀ digits rest, cs = '#' :: (digits ++ rest) → (∀ c ∈ digits, c.isDigit = true) →
    isOverlong digits = false

/-- No decimal reference of a text has more digits than are read. -/
def Legible (cs : List Char) : Prop :=
  ∀ rest, '&' :: rest <:+ cs → LegibleBehind rest

theorem legible_nil : Legible [] := by
  intro rest h
  cases List.suffix_nil.mp h

theorem legible_cons {c : Char} {cs : List Char} :
    Legible (c :: cs) ↔ (c = '&' → LegibleBehind cs) ∧ Legible cs := by
  constructor
  · intro h
    refine ⟨?_, fun rest hrest => h rest (hrest.trans (List.suffix_cons c cs))⟩
    rintro rfl
    exact h cs (List.suffix_refl _)
  · rintro ⟨hfirst, hrest⟩ rest h
    rcases List.suffix_cons_iff.mp h with heq | h
    · obtain ⟨rfl, rfl⟩ := List.cons.inj heq
      exact hfirst rfl
    · exact hrest rest h

/-- A part without ampersands does not matter. -/
theorem legible_append {taken cs : List Char} (h : '&' ∉ taken) :
    Legible (taken ++ cs) ↔ Legible cs := by
  induction taken with
  | nil => rfl
  | cons c taken ih =>
    rw [List.mem_cons, not_or] at h
    rw [List.cons_append, legible_cons, ih h.2]
    exact and_iff_right fun hc => absurd hc.symm h.1

theorem isOverlong_append {ds more : List Char} (h : isOverlong ds = true) :
    isOverlong (ds ++ more) = true := by
  simp only [isOverlong, decide_eq_true_eq, List.length_append] at *
  omega

/-- The longest run of digits decides. -/
theorem legibleBehind_iff {cs : List Char} :
    LegibleBehind ('#' :: cs) ↔ isOverlong (cs.takeWhile Char.isDigit) = false := by
  constructor
  · intro h
    refine h (cs.takeWhile Char.isDigit) (cs.dropWhile Char.isDigit) ?_ fun c hc => ?_
    · rw [List.takeWhile_append_dropWhile]
    · exact List.mem_takeWhile_imp hc
  · intro h digits rest heq hdigits
    obtain ⟨-, rfl⟩ := List.cons.inj heq
    rw [List.takeWhile_append_of_pos hdigits] at h
    by_contra hlong
    rw [isOverlong_append (Bool.not_eq_false _ ▸ hlong)] at h
    cases h

theorem okIff_readReference (cs : List Char) :
    OkIff (readReference cs) (LegibleBehind cs) := by
  unfold readReference
  split
  · next rest =>
    refine OkIff.congr ?_ legibleBehind_iff.symm
    dsimp only
    rw [List.span_eq_takeWhile_dropWhile]
    by_cases hnone : (rest.takeWhile Char.isDigit).isEmpty = true
    · have hshort : isOverlong (rest.takeWhile Char.isDigit) = false := by
        rw [List.isEmpty_iff.mp hnone]
        rfl
      exact .of_eq_ok (if_pos hnone) hshort
    · rw [if_neg hnone]
      cases hlong : isOverlong (rest.takeWhile Char.isDigit) with
      | true => exact ⟨fun h => absurd h (by decide), fun _ => rfl⟩
      | false => exact .of_eq_ok rfl rfl
  · next hsign =>
    refine .of_eq_ok rfl fun digits rest heq _ => ?_
    exact absurd heq (hsign _)

/-! ## What references take -/

theorem exists_dropSemicolon (cs : List Char) : ∃ taken, cs = taken ++ dropSemicolon cs ∧
    '&' ∉ taken := by
  unfold dropSemicolon
  split
  · exact ⟨[';'], rfl, by decide⟩
  · exact ⟨[], rfl, List.not_mem_nil⟩

/-- A run of a class without ampersands, and perhaps a semicolon behind it. -/
theorem exists_span {p : Char → Bool} (hp : p '&' = false) (cs : List Char) :
    ∃ taken, cs = taken ++ dropSemicolon (cs.dropWhile p) ∧ '&' ∉ taken := by
  obtain ⟨more, hmore, hnot⟩ := exists_dropSemicolon (cs.dropWhile p)
  refine ⟨cs.takeWhile p ++ more, ?_, ?_⟩
  · rw [List.append_assoc, ← hmore, List.takeWhile_append_dropWhile]
  · rw [List.mem_append, not_or]
    refine ⟨fun h => ?_, hnot⟩
    rw [List.mem_takeWhile_imp h] at hp
    cases hp

theorem spanUpTo_spec (p : Char → Bool) (limit : Nat) (cs : List Char) :
    cs = (spanUpTo p limit cs).1 ++ (spanUpTo p limit cs).2 ∧
      ∀ c ∈ (spanUpTo p limit cs).1, p c = true := by
  fun_induction spanUpTo p limit cs with
  | case1 => simp
  | case2 => simp
  | case3 limit c cs hc taken rest heq ih =>
    rw [heq] at ih
    refine ⟨congrArg (c :: ·) ih.1, ?_⟩
    rw [List.forall_mem_cons]
    exact ⟨hc, ih.2⟩
  | case4 => simp

theorem exists_of_hexReference? {cs value after : List Char}
    (h : hexReference? cs = some (value, after)) : ∃ taken, cs = taken ++ after ∧ '&' ∉ taken := by
  unfold hexReference? at h
  split at h
  · next x more =>
    split at h
    · next hx =>
      dsimp only at h
      rw [List.span_eq_takeWhile_dropWhile] at h
      split at h
      · cases h
      · obtain ⟨rfl, rfl⟩ := Prod.mk.inj (Option.some.inj h)
        obtain ⟨taken, htaken, hnot⟩ := exists_span (p := fun c =>
          c.isDigit || ('a' ≤ c.toLower && c.toLower ≤ 'f')) (by decide) more
        refine ⟨x :: taken, congrArg (x :: ·) htaken, ?_⟩
        rw [List.mem_cons, not_or]
        refine ⟨?_, hnot⟩
        rintro rfl
        exact absurd hx (by decide)
    · cases h
  · cases h

theorem exists_of_wordReference? {cs value after : List Char}
    (h : wordReference? cs = some (value, after)) : ∃ taken, cs = taken ++ after ∧ '&' ∉ taken := by
  obtain ⟨hsplit, hname⟩ := spanUpTo_spec isReferenceChar 32 cs
  have hnot : '&' ∉ (spanUpTo isReferenceChar 32 cs).1 := by
    intro hmem
    exact absurd (hname _ hmem) (by decide)
  -- The text behind the word is what follows the name, or the semicolon behind it.
  have hafter : after = dropSemicolon (spanUpTo isReferenceChar 32 cs).2 := by
    unfold wordReference? at h
    dsimp only at h
    split at h
    · cases h
    · split at h
      · exact (Prod.mk.inj (Option.some.inj h)).2.symm
      · split at h
        · exact (Prod.mk.inj (Option.some.inj h)).2.symm
        · exact (Prod.mk.inj (Option.some.inj h)).2.symm
  obtain ⟨more, hmore, hnot'⟩ := exists_dropSemicolon (spanUpTo isReferenceChar 32 cs).2
  refine ⟨(spanUpTo isReferenceChar 32 cs).1 ++ more, ?_, ?_⟩
  · rw [hafter, List.append_assoc, ← hmore]
    exact hsplit
  · rw [List.mem_append, not_or]
    exact ⟨hnot, hnot'⟩

/-- A reference takes no ampersand but its own. -/
theorem exists_of_readReference {cs value after : List Char}
    (h : readReference cs = .ok (some (value, after))) :
    ∃ taken, cs = taken ++ after ∧ '&' ∉ taken := by
  unfold readReference at h
  split at h
  · next rest =>
    have hrest : ∃ taken, rest = taken ++ after ∧ '&' ∉ taken := by
      dsimp only at h
      rw [List.span_eq_takeWhile_dropWhile] at h
      split at h
      · exact exists_of_hexReference? (Except.ok.inj h)
      · split at h
        · cases h
        · obtain ⟨-, rfl⟩ := Prod.mk.inj (Option.some.inj (Except.ok.inj h))
          exact exists_span (by decide) rest
    obtain ⟨taken, htaken, hnot⟩ := hrest
    refine ⟨'#' :: taken, congrArg ('#' :: ·) htaken, ?_⟩
    rw [List.mem_cons, not_or]
    exact ⟨by decide, hnot⟩
  · exact exists_of_wordReference? (Except.ok.inj h)

/-! ## Decoding -/

theorem okIff_decodeReferences (cs : List Char) :
    OkIff (decodeReferences cs) (Legible cs) := by
  fun_induction decodeReferences cs with
  | case1 => exact .of_eq_ok rfl legible_nil
  | case2 c rest hamp e hread =>
    obtain rfl := beq_iff_eq.mp hamp
    have hbehind := okIff_readReference rest
    have hnot : ¬ LegibleBehind rest := by
      intro h
      obtain ⟨found, hfound⟩ := hbehind.ok h
      rw [hread] at hfound
      cases hfound
    have he := hbehind.overlong hnot
    rw [hread] at he
    refine ⟨fun h => absurd ((legible_cons.mp h).1 rfl) hnot, fun _ => ?_⟩
    rw [Except.error.inj he]
  | case3 c rest hamp value after hread hshorter ih =>
    obtain ⟨taken, rfl, hnot⟩ := exists_of_readReference hread
    have hbehind := (okIff_readReference _).of_ok hread
    refine (ih.map _).congr ?_
    rw [legible_cons, legible_append hnot]
    exact (and_iff_right fun _ => hbehind).symm
  | case4 c rest hamp value after hread hlonger ih =>
    have hbehind := (okIff_readReference _).of_ok hread
    refine (ih.map _).congr ?_
    rw [legible_cons]
    exact (and_iff_right fun _ => hbehind).symm
  | case5 c rest hamp hread ih =>
    have hbehind := (okIff_readReference _).of_ok hread
    refine (ih.map _).congr ?_
    rw [legible_cons]
    exact (and_iff_right fun _ => hbehind).symm
  | case6 c rest hplain ih =>
    refine (ih.map _).congr ?_
    rw [legible_cons]
    exact (and_iff_right fun hc => absurd (beq_iff_eq.mpr hc) hplain).symm

/-- A text is decoded exactly if no decimal reference has more digits than are read. -/
theorem okIff_unescape (s : String) : OkIff (unescape s) (Legible s.toList) :=
  (okIff_decodeReferences s.toList).map String.ofList

end Formwork.Text
