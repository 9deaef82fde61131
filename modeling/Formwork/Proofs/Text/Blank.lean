import Mathlib.Data.List.DropRight
import Formwork.Text.Blank

/-!
# Blanks at the ends of a text

Trimming a trimmed text changes nothing, and what is left of a text is empty exactly where the text
is blank.
-/
namespace Formwork.Text

variable {p : Char → Bool} {cs ds : List Char}

theorem dropWhile_of_prefix (hds : ds.dropWhile p = ds) (h : cs <+: ds) : cs.dropWhile p = cs := by
  cases cs with
  | nil => rfl
  | cons c cs =>
    obtain ⟨rest, rfl⟩ := h
    have hc : ¬ p c := List.dropWhile_eq_self_iff.mp hds (by simp)
    exact List.dropWhile_cons_of_neg hc

theorem stripWhere_eq (p : Char → Bool) (cs : List Char) :
    stripWhere p cs = (cs.dropWhile p).rdropWhile p := rfl

theorem stripWhere_stripWhere (p : Char → Bool) (cs : List Char) :
    stripWhere p (stripWhere p cs) = stripWhere p cs := by
  have hfront : (stripWhere p cs).dropWhile p = stripWhere p cs :=
    dropWhile_of_prefix (List.dropWhile_idempotent p cs) (List.rdropWhile_prefix p _)
  rw [stripWhere_eq p (stripWhere p cs), hfront, stripWhere_eq, List.rdropWhile_idempotent]

theorem stripWhere_eq_nil_iff : stripWhere p cs = [] ↔ ∀ c ∈ cs, p c := by
  rw [stripWhere_eq, List.rdropWhile_eq_nil_iff, ← List.dropWhile_eq_nil_iff,
    List.dropWhile_idempotent, List.dropWhile_eq_nil_iff]

theorem dropWhile_of_head (h : ∀ c ∈ cs.head?, p c = false) : cs.dropWhile p = cs := by
  cases cs with
  | nil => rfl
  | cons c cs => exact List.dropWhile_cons_of_neg (by simp [h c rfl])

/-- Where the characters of a class at the start of a text end is determined by the text. -/
theorem append_inj_of_head {before before' after after' : List Char}
    (hbefore : ∀ c ∈ before, p c = true) (hbefore' : ∀ c ∈ before', p c = true)
    (hafter : ∀ c ∈ after.head?, p c = false) (hafter' : ∀ c ∈ after'.head?, p c = false)
    (h : before ++ after = before' ++ after') : before = before' ∧ after = after' := by
  have hrest := congrArg (List.dropWhile p) h
  rw [List.dropWhile_append_of_pos hbefore, List.dropWhile_append_of_pos hbefore',
    dropWhile_of_head hafter, dropWhile_of_head hafter'] at hrest
  subst hrest
  exact ⟨List.append_cancel_right h, rfl⟩

/-- What is stripped off are the characters of the class before and behind. -/
theorem stripWhere_between {before after : List Char} (hbefore : ∀ c ∈ before, p c = true)
    (hafter : ∀ c ∈ after, p c = true) (hfirst : ∀ c ∈ cs.head?, p c = false)
    (hlast : ∀ c ∈ cs.getLast?, p c = false) : stripWhere p (before ++ (cs ++ after)) = cs := by
  by_cases hnil : cs = []
  · rw [hnil]
    exact stripWhere_eq_nil_iff.mpr (List.forall_mem_append.mpr ⟨hbefore, hafter⟩)
  · obtain ⟨c, cs, rfl⟩ := List.exists_cons_of_ne_nil hnil
    have hfront : (c :: cs ++ after).dropWhile p = c :: cs ++ after := dropWhile_of_head hfirst
    have hback : (c :: cs).reverse.dropWhile p = (c :: cs).reverse :=
      dropWhile_of_head (by rwa [List.head?_reverse])
    have hreverse : ∀ d ∈ after.reverse, p d = true := fun d hd => hafter d (List.mem_reverse.mp hd)
    rw [stripWhere_eq, List.dropWhile_append_of_pos hbefore, hfront, List.rdropWhile,
      List.reverse_append, List.dropWhile_append_of_pos hreverse, hback, List.reverse_reverse]

theorem stripWhere_eq_self (hfirst : ∀ c ∈ cs.head?, p c = false)
    (hlast : ∀ c ∈ cs.getLast?, p c = false) : stripWhere p cs = cs := by
  have h := stripWhere_between (List.forall_mem_nil _) (List.forall_mem_nil _) hfirst hlast
  rwa [List.append_nil, List.nil_append] at h

/-- What is stripped of a text stands between characters of the class. -/
theorem exists_stripWhere (p : Char → Bool) (cs : List Char) :
    ∃ before after, cs = before ++ (stripWhere p cs ++ after) ∧
      (∀ c ∈ before, p c = true) ∧ ∀ c ∈ after, p c = true := by
  refine ⟨cs.takeWhile p, (cs.dropWhile p).rtakeWhile p, ?_,
    List.all_eq_true.mp List.all_takeWhile, fun c => List.mem_rtakeWhile_imp⟩
  rw [stripWhere_eq, List.rdropWhile_append_rtakeWhile, List.takeWhile_append_dropWhile]

theorem getLast?_rdropWhile (p : Char → Bool) (cs : List Char) :
    ∀ c ∈ (cs.rdropWhile p).getLast?, p c = false := by
  intro c hc
  obtain ⟨hne, rfl⟩ := List.mem_getLast?_eq_getLast hc
  exact Bool.not_eq_true _ ▸ List.rdropWhile_last_not p cs hne

@[simp] theorem trim_trim (s : String) : trim (trim s) = trim s := by
  rw [trim, trim, String.toList_ofList, stripWhere_stripWhere]

theorem trim_eq_empty_iff {s : String} : trim s = "" ↔ isBlankText s = true := by
  rw [trim, isBlankText, List.all_eq_true, ← stripWhere_eq_nil_iff, ← String.toList_inj]
  simp

end Formwork.Text
