import Formwork.Proofs.Application.Parts

/-!
# The order of configured sub-tabs

The rank of a sub-tab is the order and the position of the last entry with its label. Sub-tabs
that are configured stand by these pairs, the order first, and no two of them stand at one place.
-/
namespace Formwork.SubTabEntries

/-- An entry of a label at a position after which no entry has that label. -/
structure IsLast (entries : List SubTabEntry) (label : Value) (e : SubTabEntry) (i : Nat) :
    Prop where
  entry : entries[i]? = some e
  label_eq : e.label = label
  later : ∀ (j : Nat) (e' : SubTabEntry), i < j → entries[j]? = some e' → e'.label ≠ label

variable {entries : List SubTabEntry} {label : Value}

theorem IsLast.unique {e e' : SubTabEntry} {i j : Nat} (h : IsLast entries label e i)
    (h' : IsLast entries label e' j) : e = e' ∧ i = j := by
  have hij : i = j := by
    rcases Nat.lt_trichotomy i j with hlt | heq | hgt
    · exact absurd h'.label_eq (h.later j e' hlt h'.entry)
    · exact heq
    · exact absurd h.label_eq (h'.later i e hgt h.entry)
  subst hij
  exact ⟨Option.some.inj (h.entry.symm.trans h'.entry), rfl⟩

/-- The search from the end finds the last entry of a label. -/
theorem isLast_of_find? {e : SubTabEntry} {i : Nat}
    (h : entries.zipIdx.reverse.find? (fun (e, _) => e.label == label) = some (e, i)) :
    IsLast entries label e i := by
  obtain ⟨hlabel, before, after, hsplit, hbefore⟩ := List.find?_eq_some_iff_append.mp h
  have hzip : entries.zipIdx = after.reverse ++ (e, i) :: before.reverse := by
    have := congrArg List.reverse hsplit
    simpa using this
  have hentry : ∀ (j : Nat) (x : SubTabEntry), entries[j]? = some x ↔
      entries.zipIdx[j]? = some (x, j) := by
    intro j x
    simp [List.getElem?_zipIdx]
  have hpos : ∀ (j : Nat) (p : SubTabEntry × Nat), entries.zipIdx[j]? = some p → p.2 = j := by
    intro j p hp
    rw [List.getElem?_zipIdx] at hp
    obtain ⟨x, _, rfl⟩ := Option.map_eq_some_iff.mp hp
    simp
  have hi : i = after.length := by
    have hat : entries.zipIdx[after.length]? = some (e, i) := by
      rw [hzip, List.getElem?_append_right (by simp)]
      simp
    exact hpos after.length (e, i) hat
  refine ⟨?_, by simpa using hlabel, ?_⟩
  · rw [hentry, hzip, List.getElem?_append_right (by simp [hi])]
    simp [hi]
  · intro j x hj hx
    rw [hentry, hzip, List.getElem?_append_right (by simp; omega), List.length_reverse] at hx
    obtain ⟨k, hk⟩ : ∃ k, j - after.length = k + 1 := ⟨j - after.length - 1, by omega⟩
    rw [hk, List.getElem?_cons_succ] at hx
    have hmem : (x, j) ∈ before := List.mem_reverse.mp (List.mem_of_getElem? hx)
    simpa using hbefore (x, j) hmem

theorem exists_isLast (h : entries.any (fun e => e.label == label) = true) :
    ∃ e i, IsLast entries label e i := by
  obtain ⟨e, he, hlabel⟩ := List.any_eq_true.mp h
  obtain ⟨i, hi⟩ := List.getElem?_of_mem he
  have hmem : (e, i) ∈ entries.zipIdx.reverse := by
    rw [List.mem_reverse, List.mem_iff_getElem?]
    exact ⟨i, by simp [List.getElem?_zipIdx, hi]⟩
  have hsome : (entries.zipIdx.reverse.find? (fun (e, _) => e.label == label)).isSome :=
    List.find?_isSome.mpr ⟨(e, i), hmem, hlabel⟩
  obtain ⟨⟨e', i'⟩, hfind⟩ := Option.isSome_iff_exists.mp hsome
  exact ⟨e', i', isLast_of_find? hfind⟩

/-- The rank of a label is read off its last entry. -/
theorem IsLast.rank_eq {e : SubTabEntry} {i : Nat} (h : IsLast entries label e i) :
    rank entries label = (e.order, i) := by
  have hsome : (entries.zipIdx.reverse.find? (fun (e, _) => e.label == label)).isSome := by
    refine List.find?_isSome.mpr ⟨(e, i), ?_, by simp [h.label_eq]⟩
    rw [List.mem_reverse, List.mem_iff_getElem?]
    exact ⟨i, by simp [List.getElem?_zipIdx, h.entry]⟩
  obtain ⟨⟨e', i'⟩, hfind⟩ := Option.isSome_iff_exists.mp hsome
  obtain ⟨rfl, rfl⟩ := h.unique (isLast_of_find? hfind)
  rw [rank, hfind]

/-- Two different labels that are configured do not have the same rank. -/
theorem IsLast.lt_of_rankLe {other : Value} {e e' : SubTabEntry} {i j : Nat}
    (h : IsLast entries label e i) (h' : IsLast entries other e' j) (hne : label ≠ other)
    (hle : rankLe (rank entries label) (rank entries other) = true) :
    e.order < e'.order ∨ e.order = e'.order ∧ i < j := by
  rw [h.rank_eq, h'.rank_eq] at hle
  simp only [rankLe, Bool.or_eq_true, Bool.and_eq_true, decide_eq_true_eq, beq_iff_eq] at hle
  rcases hle with hlt | ⟨heq, hle⟩
  · exact Or.inl hlt
  · refine Or.inr ⟨heq, Nat.lt_of_le_of_ne hle fun hij => hne ?_⟩
    subst hij
    have he : e = e' := Option.some.inj (h.entry.symm.trans h'.entry)
    rw [← h.label_eq, ← h'.label_eq, he]

end Formwork.SubTabEntries
