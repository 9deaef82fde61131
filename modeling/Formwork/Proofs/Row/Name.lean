import Formwork.Row.Name
import Formwork.Proofs.Text.Run
import Formwork.Proofs.Text.Upper

/-!
# Names of labels

A label gives a name if its text in upper case has a letter A to Z or a digit. The name is then the
mark and, behind it, the runs of such characters with one underscore between each two. Upper case
may lengthen a text, so the runs are those of the text in upper case and not of the label; a word of
them stays as it is in upper case, so that it gives the name again.
-/
namespace Formwork

theorem upperChar_of_isNameChar {c : Char} (h : isNameChar c = true) :
    Text.upperChar c = [c] := by
  have hascii : c.val < 0x80 ∧ c.isLower = false := by
    simp only [isNameChar, Bool.or_eq_true, Bool.and_eq_true, decide_eq_true_eq] at h
    unfold Char.isLower
    grind [Char.le_def]
  rw [Text.upperChar, if_pos hascii.1, Text.toUpper_of_not_isLower hascii.2]

theorem labelWord_eq {label : String} {runs : List (List Char)}
    (h : Text.IsRuns isNameChar (Text.upper label).toList runs) :
    labelWord label = String.ofList (['_'].intercalate runs) := by
  rw [labelWord, h.stripWhere_joinRuns (by decide)]

theorem labelWord_eq_empty_iff {label : String} :
    labelWord label = "" ↔ ∀ c ∈ (Text.upper label).toList, isNameChar c = false := by
  obtain ⟨runs, hruns, -⟩ := Text.existsUnique_isRuns isNameChar (Text.upper label).toList
  rw [labelWord_eq hruns, ← hruns.eq_nil_iff, ← String.toList_eq_nil_iff, String.toList_ofList]
  constructor
  · intro h
    cases runs with
    | nil => rfl
    | cons run runs =>
      rw [Text.intercalate_cons, List.append_eq_nil_iff] at h
      exact absurd h.1 (hruns.forall_run run List.mem_cons_self).1
  · rintro rfl
    rfl

/-- The mark alone is no name. -/
theorem nameOfLabel_of_labelWord {mark label : String} (h : labelWord label ≠ "") :
    nameOfLabel mark label = mark ++ labelWord label ∧ nameOfLabel mark label ≠ "" := by
  have hname : nameOfLabel mark label = mark ++ labelWord label := by
    rw [nameOfLabel]
    exact if_neg (by simpa using h)
  refine ⟨hname, fun hempty => ?_⟩
  rw [hname] at hempty
  have hparts := congrArg String.toList hempty
  rw [String.toList_append, String.toList_empty, List.append_eq_nil_iff] at hparts
  exact h (String.toList_eq_nil_iff.mp hparts.2)

theorem nameOfLabel_eq_empty_iff_labelWord {mark label : String} :
    nameOfLabel mark label = "" ↔ labelWord label = "" := by
  constructor
  · intro h
    by_contra hword
    exact (nameOfLabel_of_labelWord hword).2 h
  · intro h
    rw [nameOfLabel, h]
    rfl

/-- Characters of names and underscores stay as they are in upper case. -/
theorem upper_of_nameChars {word : String}
    (h : ∀ c ∈ word.toList, isNameChar c = true ∨ c = '_') : Text.upper word = word := by
  have hchar : ∀ c ∈ word.toList, Text.upperChar c = [c] := by
    intro c hc
    rcases h c hc with hname | rfl
    · exact upperChar_of_isNameChar hname
    · decide
  rw [Text.upper, List.flatMap_congr hchar, List.flatMap_singleton', String.ofList_toList]

/-- A word that a label suggests suggests itself. -/
theorem labelWord_labelWord (label : String) : labelWord (labelWord label) = labelWord label := by
  obtain ⟨runs, hruns, -⟩ := Text.existsUnique_isRuns isNameChar (Text.upper label).toList
  have hword := labelWord_eq hruns
  have hchars : ∀ c ∈ (labelWord label).toList, isNameChar c = true ∨ c = '_' := by
    rw [hword, String.toList_ofList]
    exact Text.forall_mem_intercalate (List.forall_mem_singleton.mpr (Or.inr rfl))
      fun run hrun c hc => Or.inl ((hruns.forall_run run hrun).2 c hc)
  have hagain : Text.IsRuns isNameChar (Text.upper (labelWord label)).toList runs := by
    rw [upper_of_nameChars hchars, hword, String.toList_ofList]
    exact Text.isRuns_intercalate (by decide) hruns.forall_run
  rw [labelWord_eq hagain, hword]

/-- A label gives no name exactly where its text in upper case has no letter A to Z and no digit.
Otherwise the name is the mark and a word, which is the runs of such characters in that text with
one underscore between each two, and the word gives the same name again. -/
theorem nameOfLabel_normalForm (mark label : String) :
    let text := (Text.upper label).toList
    (nameOfLabel mark label = "" ↔ ∀ c ∈ text, isNameChar c = false) ∧
      (nameOfLabel mark label ≠ "" → ∃ word runs,
        nameOfLabel mark label = mark ++ word ∧
        Text.IsRuns isNameChar text runs ∧ runs ≠ [] ∧
        word.toList = ['_'].intercalate runs ∧
        nameOfLabel mark word = nameOfLabel mark label) := by
  intro text
  refine ⟨nameOfLabel_eq_empty_iff_labelWord.trans labelWord_eq_empty_iff, fun hne => ?_⟩
  have hword : labelWord label ≠ "" := fun h => hne (nameOfLabel_eq_empty_iff_labelWord.mpr h)
  obtain ⟨runs, hruns, -⟩ := Text.existsUnique_isRuns isNameChar text
  refine ⟨labelWord label, runs, (nameOfLabel_of_labelWord hword).1, hruns, ?_, ?_, ?_⟩
  · intro hnone
    exact hword (labelWord_eq_empty_iff.mpr (hruns.eq_nil_iff.mp hnone))
  · rw [labelWord_eq hruns, String.toList_ofList]
  · rw [nameOfLabel, nameOfLabel, labelWord_labelWord]

/-- Upper case makes two letters of the sharp s. The blank and the brackets at the ends leave no
underscore. -/
theorem nameOfLabel_normalForm_sharp_s :
    nameOfLabel "ZZ_" " Große Straße -- (2)" = "ZZ_GROSSE_STRASSE_2" ∧
      nameOfLabel "ZZ_" " Große Straße -- (2)" ≠ "" ∧
      ∃ word runs, "ZZ_GROSSE_STRASSE_2" = "ZZ_" ++ word ∧
        Text.IsRuns isNameChar (Text.upper " Große Straße -- (2)").toList runs ∧ runs ≠ [] ∧
        word.toList = ['_'].intercalate runs ∧ nameOfLabel "ZZ_" word = "ZZ_GROSSE_STRASSE_2" := by
  have hname : nameOfLabel "ZZ_" " Große Straße -- (2)" = "ZZ_GROSSE_STRASSE_2" := by
    decide +kernel
  have hne : nameOfLabel "ZZ_" " Große Straße -- (2)" ≠ "" := by
    rw [hname]
    decide
  have hform := (nameOfLabel_normalForm "ZZ_" " Große Straße -- (2)").2 hne
  rw [hname] at hform
  exact ⟨hname, hne, hform⟩

end Formwork
