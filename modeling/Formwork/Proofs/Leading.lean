import Mathlib.Data.List.Basic
import Mathlib.Data.List.Perm.Subperm
import Formwork.Proofs.Classes

/-!
# Entries that none before them covers

A loop that collects an entry unless something collected covers it keeps the leading entries of its
list. Where an entry covers itself these are among the first occurrences, and all of them exactly
where no entry covers one that occurs first behind it.
-/
namespace Formwork

variable {α β : Type}

/-- The entries that no entry kept before them covers. -/
def leading (covers : α → α → Bool) : List α → List α
  | [] => []
  | a :: rest => a :: (leading covers rest).filter (fun b => !covers a b)

variable {covers : α → α → Bool}

theorem leading_sublist (l : List α) : (leading covers l).Sublist l := by
  induction l with
  | nil => exact List.Sublist.slnil
  | cons a l ih => exact (List.filter_sublist.trans ih).cons_cons a

theorem pairwise_leading (l : List α) :
    (leading covers l).Pairwise (fun a b => covers a b = false) := by
  induction l with
  | nil => exact List.Pairwise.nil
  | cons a l ih =>
    refine List.Pairwise.cons (fun b hb => ?_) (ih.filter _)
    simpa using (List.mem_filter.mp hb).2

theorem leading_map (f : β → α) (l : List β) :
    leading covers (l.map f) = (leading (fun b c => covers (f b) (f c)) l).map f := by
  induction l with
  | nil => rfl
  | cons b l ih =>
    rw [List.map_cons, leading, leading, ih, List.map_cons, List.filter_map]
    rfl

/-- What the loop adds to what is there: the leading entries that nothing there covers. -/
theorem foldl_unless {f : α → β} {seen : β → α → Bool} {l : List α}
    (hf : ∀ a, ∀ b ∈ l, seen (f a) b = covers a b)
    (htrans : ∀ s a b, seen s a = true → covers a b = true → seen s b = true) (done : List β) :
    l.foldl (fun done a => if done.any (fun s => seen s a) then done else done ++ [f a]) done =
      done ++ ((leading covers l).filter (fun a => !done.any (fun s => seen s a))).map f := by
  induction l generalizing done with
  | nil => exact (List.append_nil done).symm
  | cons a l ih =>
    have ih := ih fun a b hb => hf a b (List.mem_cons_of_mem _ hb)
    rw [List.foldl_cons, ih, leading]
    by_cases hseen : done.any (fun s => seen s a) = true
    · -- What the entry covers is covered already.
      have hsame : ∀ b ∈ leading covers l,
          (!done.any (fun s => seen s b) && !covers a b) = !done.any (fun s => seen s b) := by
        intro b _
        by_cases hab : covers a b = true
        · obtain ⟨s, hs, hsa⟩ := List.any_eq_true.mp hseen
          have hb : done.any (fun s => seen s b) = true :=
            List.any_eq_true.mpr ⟨s, hs, htrans s a b hsa hab⟩
          rw [hb]
          rfl
        · rw [eq_false_of_ne_true hab, Bool.not_false, Bool.and_true]
      rw [if_pos hseen, List.filter_cons_of_neg (by simp [hseen]), List.filter_filter,
        List.filter_congr hsame]
    · have hsplit : ∀ b ∈ leading covers l, (!(done ++ [f a]).any (fun s => seen s b)) =
          (!done.any (fun s => seen s b) && !covers a b) := by
        intro b hb
        rw [List.any_append, List.any_cons, List.any_nil, Bool.or_false, Bool.not_or,
          hf a b (List.mem_cons_of_mem _ ((leading_sublist l).subset hb))]
      rw [if_neg hseen, List.filter_cons_of_pos (by simp [hseen]), List.filter_filter,
        List.filter_congr hsplit, List.map_cons, List.append_assoc, List.singleton_append]

section Distinct

variable [BEq α] [LawfulBEq α]

theorem leading_sublist_distinct (hrefl : ∀ a, covers a a = true) (l : List α) :
    (leading covers l).Sublist (distinct l) := by
  induction l with
  | nil => exact List.Sublist.slnil
  | cons a l ih =>
    have hother : ∀ b, (!covers a b) = true → (!(b == a)) = true := by
      intro b hb
      have hne : b ≠ a := by
        rintro rfl
        rw [hrefl] at hb
        cases hb
      simpa using hne
    rw [leading, distinct]
    exact ((List.monotone_filter_right _ hother).trans (ih.filter _)).cons_cons a

theorem rel_of_idxOf_lt {R : α → α → Prop} {l : List α} {a b : α} (h : (distinct l).Pairwise R)
    (ha : a ∈ distinct l) (hb : b ∈ distinct l) (hlt : l.idxOf a < l.idxOf b) : R a b := by
  obtain ⟨i, hi, rfl⟩ := List.getElem_of_mem ha
  obtain ⟨j, hj, rfl⟩ := List.getElem_of_mem hb
  rcases Nat.lt_trichotomy i j with hij | rfl | hij
  · exact List.pairwise_iff_getElem.mp h i j hi hj hij
  · exact absurd hlt (Nat.lt_irrefl _)
  · have hback := List.pairwise_iff_getElem.mp (inOrderOf_distinct l) j i hj hi hij
    exact absurd hback (Nat.lt_asymm hlt)

/-- An entry is covered by a leading one that occurs first before it, or is leading itself. -/
theorem exists_leading (htrans : ∀ a b c, covers a b = true → covers b c = true → covers a c = true)
    (hrefl : ∀ a, covers a a = true) {l : List α} {b : α} (hb : b ∈ l) :
    ∃ a ∈ leading covers l, covers a b = true ∧ (a = b ∨ l.idxOf a < l.idxOf b) := by
  induction l with
  | nil => cases hb
  | cons c l ih =>
    by_cases hbc : b = c
    · exact ⟨c, List.mem_cons_self, hbc ▸ hrefl b, Or.inl hbc.symm⟩
    · have hfirst : (c :: l).idxOf c < (c :: l).idxOf b := by
        rw [List.idxOf_cons_self, List.idxOf_cons_ne _ (Ne.symm hbc)]
        omega
      obtain ⟨a, ha, hab, hplace⟩ := ih (List.mem_of_ne_of_mem hbc hb)
      by_cases hca : covers c a = true
      · exact ⟨c, List.mem_cons_self, htrans c a b hca hab, Or.inr hfirst⟩
      · have hac : a ≠ c := by
          rintro rfl
          exact hca (hrefl a)
        refine ⟨a, List.mem_cons_of_mem c (List.mem_filter.mpr ⟨ha, by simp [hca]⟩), hab, ?_⟩
        rw [List.idxOf_cons_ne _ (Ne.symm hac), List.idxOf_cons_ne _ (Ne.symm hbc)]
        exact hplace.imp_right Nat.succ_lt_succ

theorem leading_eq_distinct (htrans : ∀ a b c, covers a b = true → covers b c = true →
    covers a c = true) (hrefl : ∀ a, covers a a = true) {l : List α}
    (h : (distinct l).Pairwise (fun a b => covers a b = false)) :
    leading covers l = distinct l := by
  have hsub := leading_sublist_distinct hrefl l
  have hall : distinct l ⊆ leading covers l := by
    intro b hb
    obtain ⟨a, ha, hab, rfl | hplace⟩ := exists_leading htrans hrefl (mem_distinct.mp hb)
    · exact ha
    · have hnot := rel_of_idxOf_lt h (hsub.subset ha) hb hplace
      rw [hab] at hnot
      cases hnot
  exact hsub.eq_of_length_le ((nodup_distinct l).subperm hall).length_le

/-- The leading entries that a test lets pass are the first occurrences of a longer list exactly
where nothing of that list is missing, nothing covers what occurs first behind it, and everything
passes. -/
theorem filter_leading_eq_distinct_iff (htrans : ∀ a b c, covers a b = true → covers b c = true →
    covers a c = true) (hrefl : ∀ a, covers a a = true) {l m : List α} {p : α → Bool}
    (hsub : l ⊆ m) : (leading covers l).filter p = distinct m ↔
      distinct l = distinct m ∧ (distinct m).Pairwise (fun a b => covers a b = false) ∧
        ∀ a ∈ m, p a = true := by
  constructor
  · intro h
    have hfilter : ((leading covers l).filter p).Sublist (leading covers l) := List.filter_sublist
    have hleading := leading_sublist_distinct hrefl l
    have hshort : (distinct l).length ≤ (distinct m).length := by
      refine ((nodup_distinct l).subperm fun a ha => ?_).length_le
      exact mem_distinct.mpr (hsub (mem_distinct.mp ha))
    rw [← h] at hshort
    have hkept : (leading covers l).filter p = leading covers l :=
      hfilter.eq_of_length_le (Nat.le_trans hleading.length_le hshort)
    have hall : leading covers l = distinct l :=
      hleading.eq_of_length_le (Nat.le_trans hshort hfilter.length_le)
    have hsame : distinct l = distinct m := by rw [← hall, ← hkept, h]
    refine ⟨hsame, ?_, fun a ha => ?_⟩
    · rw [← hsame, ← hall]
      exact pairwise_leading l
    · exact (List.mem_filter.mp (h ▸ mem_distinct.mpr ha)).2
  · rintro ⟨hsame, hapart, hpass⟩
    rw [leading_eq_distinct htrans hrefl (hsame ▸ hapart), hsame]
    exact List.filter_eq_self.mpr fun a ha => hpass a (mem_distinct.mp ha)

end Distinct

end Formwork
