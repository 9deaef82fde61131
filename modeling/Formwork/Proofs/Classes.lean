import Mathlib.Data.List.Basic
import Mathlib.Data.List.Nodup
import Mathlib.Data.List.Perm.Basic
import Formwork.Classes

/-!
# Lists divided into classes

`distinct` is the list of first occurrences, and `classes` divides a list without loss. The lemma
that regrouping rests on is `classes_flatMap`: blocks with keys of their own, put one after the
other, are found again as the classes of the whole.
-/
namespace Formwork

theorem pairwise_zipIdx {α : Type} (l : List α) : l.zipIdx.Pairwise (fun a b => a.2 < b.2) := by
  rw [List.pairwise_iff_getElem]
  intro i j hi hj hij
  simpa using hij

section Distinct

variable {α : Type} [BEq α]

variable [LawfulBEq α]

@[simp] theorem mem_distinct {a : α} {l : List α} : a ∈ distinct l ↔ a ∈ l := by
  induction l with
  | nil => simp [distinct]
  | cons b l ih =>
    by_cases h : a = b
    · simp [distinct, h]
    · simp [distinct, ih, h]

theorem nodup_distinct (l : List α) : (distinct l).Nodup := by
  induction l with
  | nil => exact List.nodup_nil
  | cons b l ih =>
    rw [distinct, List.nodup_cons]
    exact ⟨by simp, ih.filter _⟩

theorem distinct_of_nodup {l : List α} (h : l.Nodup) : distinct l = l := by
  induction l with
  | nil => rfl
  | cons b l ih =>
    obtain ⟨hb, hl⟩ := List.nodup_cons.mp h
    rw [distinct, ih hl]
    congr 1
    refine List.filter_eq_self.mpr fun c hc => ?_
    have hne : c ≠ b := fun h => hb (h ▸ hc)
    simp [hne]

theorem distinct_append (l m : List α) :
    distinct (l ++ m) = distinct l ++ (distinct m).filter (fun b => !l.contains b) := by
  induction l with
  | nil => simp [distinct]
  | cons a l ih =>
    simp only [List.cons_append, distinct, ih, List.filter_append, List.filter_filter]
    congr 2
    refine List.filter_congr fun b _ => ?_
    by_cases h : b = a <;> simp [h]

/-- A list with one entry only, however often. -/
theorem distinct_of_forall_eq {a : α} {l : List α} (hne : l ≠ []) (h : ∀ b ∈ l, b = a) :
    distinct l = [a] := by
  cases l with
  | nil => exact absurd rfl hne
  | cons b l =>
    obtain rfl : b = a := h b List.mem_cons_self
    have hrest : (distinct l).filter (fun c => !(c == b)) = [] := by
      refine List.filter_eq_nil_iff.mpr fun c hc => ?_
      have : c = b := h c (List.mem_cons_of_mem b (mem_distinct.mp hc))
      simp [this]
    rw [distinct, hrest]

/-- Entries stand in the order in which they first occur in a list. -/
def InOrderOf (l entries : List α) : Prop :=
  entries.Pairwise (fun a b => l.idxOf a < l.idxOf b)

theorem inOrderOf_distinct (l : List α) : InOrderOf l (distinct l) := by
  induction l with
  | nil => exact List.Pairwise.nil
  | cons a l ih =>
    have hne : ∀ b ∈ (distinct l).filter (fun b => !(b == a)), a ≠ b := by
      rintro b hb rfl
      simp at hb
    refine List.Pairwise.cons ?_ ((ih.filter _).imp_of_mem ?_)
    · intro b hb
      rw [List.idxOf_cons_self, List.idxOf_cons_ne _ (hne b hb)]
      omega
    · intro b c hb hc hlt
      rw [List.idxOf_cons_ne _ (hne b hb), List.idxOf_cons_ne _ (hne c hc)]
      omega

end Distinct

section Shares

variable {α κ : Type} {l : List α}

theorem map_filter_eq_flatMap {β : Type} (p : α → Bool) (f : α → β) (l : List α) :
    (l.filter p).map f = l.flatMap (fun a => if p a then [f a] else []) := by
  induction l with
  | nil => rfl
  | cons a l ih =>
    rw [List.flatMap_cons, List.filter_cons, ← ih]
    split <;> rfl

/-- Nothing is lost and nothing doubled where every entry goes to one of several parts. -/
theorem flatMap_filter_perm_of_countP {p : κ → α → Bool} {parts : List κ}
    (h : ∀ a ∈ l, parts.countP (fun k => p k a) = 1) :
    (parts.flatMap (fun k => l.filter (p k))).Perm l := by
  induction l with
  | nil => simp
  | cons a l ih =>
    obtain ⟨ha, hl⟩ := List.forall_mem_cons.mp h
    have hhead : parts.flatMap (fun k => if p k a then [a] else []) = [a] := by
      rw [← map_filter_eq_flatMap (fun k => p k a) (fun _ => a), List.map_const',
        ← List.countP_eq_length_filter, ha]
      rfl
    have hsplit : ∀ k, (a :: l).filter (p k) = (if p k a then [a] else []) ++ l.filter (p k) := by
      intro k
      rw [List.filter_cons]
      split <;> rfl
    simp only [hsplit]
    refine (List.flatMap_append_perm _ _ _).symm.trans ?_
    rw [hhead]
    exact (ih hl).cons a

/-- Where one entry of a list has a property, it stands at one place. -/
theorem existsUnique_of_countP_eq_one {p : α → Bool} (h : l.countP p = 1) :
    ∃! i : Fin l.length, p l[i] = true := by
  induction l with
  | nil => simp at h
  | cons a l ih =>
    rw [List.countP_cons] at h
    by_cases ha : p a = true
    · have hnone : ∀ b ∈ l, ¬ p b = true := by
        rw [if_pos ha] at h
        exact List.countP_eq_zero.mp (Nat.succ.inj h)
      refine ⟨0, ha, fun j hj => ?_⟩
      induction j using Fin.cases with
      | zero => rfl
      | succ j => exact absurd hj (hnone _ (List.getElem_mem j.isLt))
    · rw [if_neg ha] at h
      obtain ⟨i, hi, hunique⟩ := ih h
      refine ⟨i.succ, hi, fun j hj => ?_⟩
      induction j using Fin.cases with
      | zero => exact absurd hj ha
      | succ j => rw [hunique j hj]

/-- Sorting keeps the order of entries that stood in order before. -/
theorem filter_mergeSort {le : α → α → Bool} {p : α → Bool}
    (htrans : ∀ a b c, le a b = true → le b c = true → le a c = true)
    (htotal : ∀ a b, (le a b || le b a) = true)
    (h : (l.filter p).Pairwise (fun a b => le a b = true)) :
    (l.mergeSort le).filter p = l.filter p := by
  have hsub := (List.sublist_mergeSort htrans htotal h List.filter_sublist).filter p
  rw [List.filter_filter] at hsub
  simp only [Bool.and_self] at hsub
  exact (hsub.eq_of_length ((List.mergeSort_perm l le).filter _).length_eq.symm).symm

end Shares

section Classes

variable {α κ : Type}

/-- Every block has a key of its own, and every entry of a block has that key. -/
structure Blocks (key : α → κ) (keys : List κ) (block : κ → List α) : Prop where
  nodup : keys.Nodup
  ne_nil : ∀ k ∈ keys, block k ≠ []
  key_eq : ∀ k ∈ keys, ∀ a ∈ block k, key a = k

theorem Blocks.tail {key : α → κ} {k : κ} {keys : List κ} {block : κ → List α}
    (h : Blocks key (k :: keys) block) : Blocks key keys block where
  nodup := h.nodup.of_cons
  ne_nil := fun l hl => h.ne_nil l (List.mem_cons_of_mem k hl)
  key_eq := fun l hl => h.key_eq l (List.mem_cons_of_mem k hl)

variable [BEq κ]

theorem map_fst_classes (key : α → κ) (l : List α) :
    (classes key l).map (·.1) = distinct (l.map key) := by
  simp [classes, Function.comp_def]

/-- The first entries for the keys have the keys in the order in which they first occur. -/
theorem map_firsts (key : α → κ) (l : List α) :
    (firsts key l).map key = distinct (l.map key) := by
  induction l with
  | nil => rfl
  | cons a l ih =>
    rw [firsts, List.map_cons, List.map_cons, distinct, ← ih, List.filter_map]
    rfl

theorem firsts_sublist (key : α → κ) (l : List α) : (firsts key l).Sublist l := by
  induction l with
  | nil => exact List.Sublist.slnil
  | cons a l ih => exact (List.filter_sublist.trans ih).cons_cons a

theorem firsts_map {β : Type} (key : α → κ) (f : β → α) (l : List β) :
    firsts key (l.map f) = (firsts (fun b => key (f b)) l).map f := by
  induction l with
  | nil => rfl
  | cons b l ih =>
    rw [List.map_cons, firsts, firsts, ih, List.map_cons, List.filter_map]
    rfl

variable [LawfulBEq κ]

theorem firsts_append (key : α → κ) (l m : List α) :
    firsts key (l ++ m) =
      firsts key l ++ (firsts key m).filter (fun b => !(l.map key).contains (key b)) := by
  induction l with
  | nil => simp [firsts]
  | cons a l ih =>
    simp only [List.cons_append, firsts, ih, List.filter_append, List.filter_filter]
    congr 2
    refine List.filter_congr fun b _ => ?_
    by_cases h : key b = key a <;> simp [h]

/-- One more entry is the first for its key if the key has not occurred. -/
theorem firsts_concat (key : α → κ) (l : List α) (a : α) :
    firsts key (l ++ [a]) =
      if key a ∈ l.map key then firsts key l else firsts key l ++ [a] := by
  rw [firsts_append]
  split
  · next h => simp [firsts, h]
  · next h => simp [firsts, h]

/-- The first entry with a property of its key is the first for its key. -/
theorem find?_firsts (key : α → κ) (p : κ → Bool) (l : List α) :
    (firsts key l).find? (fun a => p (key a)) = l.find? (fun a => p (key a)) := by
  induction l with
  | nil => rfl
  | cons a l ih =>
    rw [firsts, List.find?_cons, List.find?_cons]
    split
    · rfl
    · next ha =>
      rw [List.find?_filter, ← ih]
      congr 1
      funext b
      -- An entry that is left out for its key has not the property either.
      by_cases hkey : key b = key a
      · simp [hkey, ha]
      · simp [hkey]

/-- In a list that runs along an order, an entry is the first for its key if no entry for the key
comes before it in the order. -/
theorem mem_firsts {R : α → α → Prop} (hasymm : ∀ a b, R a b → ¬ R b a) {key : α → κ} {l : List α}
    (hl : l.Pairwise R) {a : α} :
    a ∈ firsts key l ↔ a ∈ l ∧ ∀ b ∈ l, key b = key a → ¬ R b a := by
  induction l with
  | nil => simp [firsts]
  | cons x l ih =>
    obtain ⟨hx, hl⟩ := List.pairwise_cons.mp hl
    rw [firsts, List.mem_cons, List.mem_filter, ih hl]
    constructor
    · rintro (rfl | ⟨⟨ha, hfirst⟩, hkey⟩)
      · refine ⟨List.mem_cons_self, fun b hb _ hR => ?_⟩
        rcases List.mem_cons.mp hb with rfl | hb
        · exact hasymm _ _ hR hR
        · exact hasymm _ _ hR (hx b hb)
      · refine ⟨List.mem_cons_of_mem x ha, fun b hb heq => ?_⟩
        rcases List.mem_cons.mp hb with rfl | hb
        · simp [heq] at hkey
        · exact hfirst b hb heq
    · rintro ⟨ha, hfirst⟩
      rcases List.mem_cons.mp ha with rfl | ha
      · exact Or.inl rfl
      · refine Or.inr ⟨⟨ha, fun b hb => hfirst b (List.mem_cons_of_mem x hb)⟩, ?_⟩
        have hkey : key a ≠ key x := fun heq => hfirst x List.mem_cons_self heq.symm (hx a ha)
        simpa using hkey

theorem Blocks.distinct_keys {key : α → κ} {keys : List κ} {block : κ → List α}
    (h : Blocks key keys block) : distinct ((keys.flatMap block).map key) = keys := by
  induction keys with
  | nil => rfl
  | cons k keys ih =>
    have hhead : distinct ((block k).map key) = [k] := by
      refine distinct_of_forall_eq (by simpa using h.ne_nil k List.mem_cons_self) ?_
      intro l hl
      obtain ⟨a, ha, rfl⟩ := List.mem_map.mp hl
      exact h.key_eq k List.mem_cons_self a ha
    have hk : k ∉ keys := (List.nodup_cons.mp h.nodup).1
    have hrest : keys.filter (fun l => !((block k).map key).contains l) = keys := by
      refine List.filter_eq_self.mpr fun l hl => ?_
      have hne : l ∉ (block k).map key := by
        intro hmem
        obtain ⟨a, ha, rfl⟩ := List.mem_map.mp hmem
        exact hk (h.key_eq k List.mem_cons_self a ha ▸ hl)
      simpa using hne
    rw [List.flatMap_cons, List.map_append, distinct_append, hhead, ih h.tail, hrest]
    rfl

theorem Blocks.filter_key {key : α → κ} {keys : List κ} {block : κ → List α}
    (h : Blocks key keys block) {k : κ} (hk : k ∈ keys) :
    (keys.flatMap block).filter (fun a => key a == k) = block k := by
  have hother : ∀ l ∈ keys, l ≠ k → (block l).filter (fun a => key a == k) = [] := by
    intro l hl hne
    refine List.filter_eq_nil_iff.mpr fun a ha => ?_
    simpa [h.key_eq l hl a ha] using hne
  have hself : (block k).filter (fun a => key a == k) = block k :=
    List.filter_eq_self.mpr fun a ha => by simp [h.key_eq k hk a ha]
  obtain ⟨before, after, rfl⟩ := List.append_of_mem hk
  have hnd := List.nodup_append.mp h.nodup
  have hbefore : before.flatMap (fun l => (block l).filter (fun a => key a == k)) = [] := by
    refine List.flatMap_eq_nil_iff.mpr fun l hl => hother l (by simp [hl]) ?_
    exact fun he => hnd.2.2 l hl k List.mem_cons_self he
  have hafter : after.flatMap (fun l => (block l).filter (fun a => key a == k)) = [] := by
    refine List.flatMap_eq_nil_iff.mpr fun l hl => hother l (by simp [hl]) ?_
    exact fun he => (List.nodup_cons.mp hnd.2.1).1 (he ▸ hl)
  rw [List.filter_flatMap, List.flatMap_append, List.flatMap_cons, hbefore, hafter, hself]
  simp

/-- Blocks put one after the other are the classes of the whole. -/
theorem classes_flatMap {key : α → κ} {keys : List κ} {block : κ → List α}
    (h : Blocks key keys block) :
    classes key (keys.flatMap block) = keys.map (fun k => (k, block k)) := by
  rw [classes, h.distinct_keys]
  exact List.map_congr_left fun k hk => by rw [h.filter_key hk]

/-- The classes of a list are blocks. -/
theorem blocks_classes (key : α → κ) (l : List α) :
    Blocks key (distinct (l.map key)) (fun k => l.filter (fun a => key a == k)) where
  nodup := nodup_distinct _
  ne_nil := by
    intro k hk
    obtain ⟨a, ha, hak⟩ := List.mem_map.mp (mem_distinct.mp hk)
    refine List.ne_nil_of_mem (a := a) (List.mem_filter.mpr ⟨ha, ?_⟩)
    simp [hak]
  key_eq := by
    intro k _ a ha
    simpa using (List.mem_filter.mp ha).2

/-- What relates entries of one key relates the entries of every class. -/
theorem pairwise_key_iff (key : α → κ) {R : α → α → Prop} {l : List α} :
    l.Pairwise (fun a b => key a = key b → R a b) ↔
      ∀ k ∈ l.map key, (l.filter (fun a => key a == k)).Pairwise R := by
  simp only [List.pairwise_filter, beq_iff_eq]
  constructor
  · intro h k _
    exact h.imp fun hR ha hb => hR (ha.trans hb.symm)
  · intro h
    rw [List.pairwise_iff_getElem]
    intro i j hi hj hlt hkey
    have hmem : key l[i] ∈ l.map key := List.mem_map_of_mem (List.getElem_mem hi)
    exact List.pairwise_iff_getElem.mp (h _ hmem) i j hi hj hlt rfl hkey.symm

/-- Looking a key up among entries made from a list of keys. -/
theorem lookup_map_pair {β : Type} (f : κ → β) (keys : List κ) (k : κ) :
    (keys.map (fun l => (l, f l))).lookup k = if k ∈ keys then some (f k) else none := by
  induction keys with
  | nil => simp
  | cons l keys ih =>
    by_cases h : k = l
    · subst h; simp
    · have hb : (k == l) = false := by simpa using h
      simp [List.lookup_cons, hb, ih, h]

/-- Searching among entries made from a list of keys for the entry of one key. -/
theorem find?_map_key {β : Type} {f : κ → β} {keys : List κ} {k : κ} {p : β → Bool}
    (h : ∀ l ∈ keys, p (f l) = true ↔ l = k) :
    (keys.map f).find? p = if k ∈ keys then some (f k) else none := by
  induction keys with
  | nil => simp
  | cons l keys ih =>
    have ih := ih fun j hj => h j (List.mem_cons_of_mem l hj)
    have hl := h l List.mem_cons_self
    by_cases hk : l = k
    · subst hk
      simp [hl.mpr rfl]
    · have hp : p (f l) = false := by simpa [hk] using hl
      simp [hp, ih, Ne.symm hk]

/-- An entry whose key no other has is found by it. -/
theorem exists_find?_key (key : α → κ) {l : List α} {a : α} (h : a ∈ l) :
    ∃ b ∈ l, key b = key a ∧ l.find? (fun b => key b == key a) = some b := by
  have hfound : (l.find? (fun b => key b == key a)).isSome = true :=
    List.find?_isSome.mpr ⟨a, h, beq_self_eq_true _⟩
  obtain ⟨b, hb⟩ := Option.isSome_iff_exists.mp hfound
  exact ⟨b, List.mem_of_find?_eq_some hb, by simpa using List.find?_some hb, hb⟩

theorem find?_key_of_mem {key : α → κ} {l : List α} (hnd : (l.map key).Nodup) {a : α}
    (h : a ∈ l) : l.find? (fun b => key b == key a) = some a := by
  obtain ⟨b, hb, hkey, hfind⟩ := exists_find?_key key h
  rw [hfind, List.inj_on_of_nodup_map hnd hb h hkey]

theorem lookup_classes (key : α → κ) (l : List α) (k : κ) :
    (classes key l).lookup k =
      if k ∈ l.map key then some (l.filter (fun a => key a == k)) else none := by
  rw [classes, lookup_map_pair]
  simp only [mem_distinct]

/-- A key without a class has no members. -/
theorem filter_key_of_notMem {key : α → κ} {l : List α} {k : κ} (h : k ∉ l.map key) :
    l.filter (fun a => key a == k) = [] := by
  refine List.filter_eq_nil_iff.mpr fun a ha hk => h ?_
  exact List.mem_map.mpr ⟨a, ha, by simpa using hk⟩

/-- The members of a class, none for a key that does not occur. -/
theorem getD_lookup_classes (key : α → κ) (l : List α) (k : κ) :
    ((classes key l).lookup k).getD [] = l.filter (fun a => key a == k) := by
  rw [lookup_classes]
  split
  · rfl
  · next h => exact (filter_key_of_notMem h).symm

/-- Nothing is lost and nothing doubled by filtering for each of the keys that occur. -/
theorem flatMap_filter_perm (key : α → κ) {keys : List κ} (hnd : keys.Nodup) {l : List α}
    (hl : ∀ a ∈ l, key a ∈ keys) :
    (keys.flatMap (fun k => l.filter (fun a => key a == k))).Perm l := by
  refine flatMap_filter_perm_of_countP fun a ha => ?_
  rw [← List.count_eq_one_of_mem hnd (hl a ha), List.count_eq_countP]
  exact List.countP_congr fun k _ => by rw [beq_iff_eq, beq_iff_eq, eq_comm]

/-- The classes hold every entry of the list, each once. -/
theorem flatMap_classes_perm (key : α → κ) (l : List α) :
    ((classes key l).flatMap (·.2)).Perm l := by
  rw [classes, List.flatMap_map]
  exact flatMap_filter_perm key (nodup_distinct _) fun a ha =>
    mem_distinct.mpr (List.mem_map.mpr ⟨a, ha, rfl⟩)

/-- What holds of all members of classes under their keys holds of all entries. -/
theorem forall_mem_classes (key : α → κ) (l : List α) {p : κ → α → Prop} :
    (∀ g ∈ classes key l, ∀ a ∈ g.2, p g.1 a) ↔ ∀ a ∈ l, p (key a) a := by
  constructor
  · intro h a ha
    refine h (key a, l.filter (fun b => key b == key a)) ?_ a (List.mem_filter.mpr ⟨ha, by simp⟩)
    exact List.mem_map_of_mem (mem_distinct.mpr (List.mem_map_of_mem ha))
  · intro h g hg a ha
    obtain ⟨k, -, rfl⟩ := List.mem_map.mp hg
    obtain ⟨ha, hk⟩ := List.mem_filter.mp ha
    exact eq_of_beq hk ▸ h a ha

/-- Dividing a list that stands in the order of its classes changes nothing. -/
theorem classes_flatMap_classes (key : α → κ) (l : List α) :
    classes key ((classes key l).flatMap (·.2)) = classes key l := by
  have hflat : (classes key l).flatMap (·.2) =
      (distinct (l.map key)).flatMap (fun k => l.filter (fun a => key a == k)) := by
    rw [classes, List.flatMap_map]
  rw [hflat]
  exact classes_flatMap (blocks_classes key l)

/-! ## Association lists -/

section Lookup

variable {β : Type}

theorem mem_of_lookup_eq_some {l : List (κ × β)} {k : κ} {v : β} (h : l.lookup k = some v) :
    (k, v) ∈ l := by
  obtain ⟨before, after, rfl, -⟩ := List.lookup_eq_some_iff.mp h
  exact List.mem_append_right before List.mem_cons_self

/-- A key that occurs has a value. -/
theorem exists_lookup {l : List (κ × β)} {k : κ} (h : k ∈ l.map (·.1)) :
    ∃ v, l.lookup k = some v := by
  obtain ⟨p, hp, rfl⟩ := List.mem_map.mp h
  exact Option.isSome_iff_exists.mp (List.lookup_isSome_iff.mpr ⟨p, hp, by simp⟩)

theorem lookup_of_mem {l : List (κ × β)} (hnd : (l.map (·.1)).Nodup) {k : κ} {v : β}
    (h : (k, v) ∈ l) : l.lookup k = some v := by
  obtain ⟨w, hw⟩ := exists_lookup (List.mem_map_of_mem (f := (·.1)) h)
  have heq := List.inj_on_of_nodup_map hnd (mem_of_lookup_eq_some hw) h rfl
  rw [hw, ← (Prod.mk.inj heq).2]

theorem mem_of_lastValue? {l : List (κ × β)} {k : κ} {v : β} (h : lastValue? k l = some v) :
    (k, v) ∈ l :=
  List.mem_reverse.mp (mem_of_lookup_eq_some h)

/-- The last value of a key is one of its values. -/
theorem exists_lastValue? {l : List (κ × β)} {k : κ} (h : k ∈ l.map (·.1)) :
    ∃ v, lastValue? k l = some v ∧ (k, v) ∈ l := by
  obtain ⟨v, hv⟩ := exists_lookup (l := l.reverse) (k := k) (by simpa using h)
  exact ⟨v, hv, mem_of_lastValue? hv⟩

omit [LawfulBEq κ] in
theorem lastValue?_cons (k : κ) (p : κ × β) (l : List (κ × β)) :
    lastValue? k (p :: l) = (lastValue? k l).or (if k == p.1 then some p.2 else none) := by
  obtain ⟨j, v⟩ := p
  cases h : k == j <;> simp [lastValue?, List.lookup_append, List.lookup_cons, h]

theorem mem_of_mem_lastValues {l : List (κ × β)} {p : κ × β} (h : p ∈ lastValues l) : p ∈ l := by
  obtain ⟨k, hk, hp⟩ := List.mem_filterMap.mp h
  obtain ⟨v, hv, hmem⟩ := exists_lastValue? (mem_distinct.mp hk)
  rw [hv, Option.map_some] at hp
  exact Option.some.inj hp ▸ hmem

/-- The keys keep their first places. -/
theorem map_fst_lastValues (l : List (κ × β)) :
    (lastValues l).map (·.1) = distinct (l.map (·.1)) := by
  have hkeys : ∀ keys : List κ, (∀ k ∈ keys, k ∈ l.map (·.1)) →
      (keys.filterMap (fun k => (lastValue? k l).map (k, ·))).map (·.1) = keys := by
    intro keys
    induction keys with
    | nil => exact fun _ => rfl
    | cons k keys ih =>
      intro h
      obtain ⟨v, hv, -⟩ := exists_lastValue? (h k List.mem_cons_self)
      have ih := ih fun j hj => h j (List.mem_cons_of_mem k hj)
      rw [List.filterMap_cons, hv, Option.map_some, List.map_cons, ih]
  exact hkeys _ fun k hk => mem_distinct.mp hk

/-- The list of last values holds the last value of a key and no other. -/
theorem mem_lastValues {l : List (κ × β)} {k : κ} {v : β} :
    (k, v) ∈ lastValues l ↔ lastValue? k l = some v := by
  constructor
  · intro h
    obtain ⟨j, -, hp⟩ := List.mem_filterMap.mp h
    obtain ⟨w, hw, hpair⟩ := Option.map_eq_some_iff.mp hp
    obtain ⟨rfl, rfl⟩ := Prod.mk.inj hpair
    exact hw
  · intro h
    have hk : k ∈ l.map (·.1) := List.mem_map_of_mem (f := (·.1)) (mem_of_lastValue? h)
    exact List.mem_filterMap.mpr ⟨k, mem_distinct.mpr hk, by rw [h, Option.map_some]⟩

theorem lastValue?_of_nodup {l : List (κ × β)} (h : (l.map (·.1)).Nodup) {k : κ} {v : β}
    (hmem : (k, v) ∈ l) : lastValue? k l = some v := by
  have hreverse : (l.reverse.map (·.1)).Nodup := by
    rw [List.map_reverse, List.nodup_reverse]
    exact h
  exact lookup_of_mem hreverse (List.mem_reverse.mpr hmem)

theorem lastValues_of_nodup {l : List (κ × β)} (h : (l.map (·.1)).Nodup) : lastValues l = l := by
  have hvalue : ∀ p ∈ l, (lastValue? p.1 l).map (p.1, ·) = some p := by
    intro p hp
    rw [lastValue?_of_nodup h hp, Option.map_some]
  rw [lastValues, distinct_of_nodup h, List.filterMap_map]
  calc l.filterMap ((fun k => (lastValue? k l).map (k, ·)) ∘ (·.1))
      = l.filterMap some := List.filterMap_congr hvalue
    _ = l := List.filterMap_some

/-- Repeated keys count for nothing when a key is looked up. -/
theorem lastValue?_lastValues (l : List (κ × β)) (k : κ) :
    lastValue? k (lastValues l) = lastValue? k l := by
  have hnd : ((lastValues l).map (·.1)).Nodup := by
    rw [map_fst_lastValues]
    exact nodup_distinct _
  refine Option.ext fun v => ⟨fun h => ?_, fun h => lastValue?_of_nodup hnd (mem_lastValues.mpr h)⟩
  exact mem_lastValues.mp (mem_of_lastValue? h)

end Lookup

end Classes

section Parts

variable {α : Type} {p : α → Bool} {key : α → Nat} {l : List α}

/-- What holds of an entry only if it holds of all before it divides a list into two parts. -/
theorem filter_append_filter_not (h : l.Pairwise (fun a b => p b = true → p a = true)) :
    l.filter p ++ l.filter (fun a => !p a) = l := by
  induction l with
  | nil => rfl
  | cons a l ih =>
    obtain ⟨ha, hl⟩ := List.pairwise_cons.mp h
    cases hp : p a with
    | true =>
      rw [List.filter_cons_of_pos hp, List.filter_cons_of_neg (by simp [hp]), List.cons_append,
        ih hl]
    | false =>
      have hnone : l.filter p = [] := by
        refine List.filter_eq_nil_iff.mpr fun b hb hpb => ?_
        rw [ha b hb hpb] at hp
        cases hp
      have hall : (a :: l).filter (fun a => !p a) = a :: l := by
        refine List.filter_eq_self.mpr (List.forall_mem_cons.mpr ⟨by simp [hp], fun b hb => ?_⟩)
        simpa using List.filter_eq_nil_iff.mp hnone b hb
      rw [List.filter_cons_of_neg (by simp [hp]), hnone, hall, List.nil_append]

/-- A list along which a key never falls is made of the parts for the keys. -/
theorem flatMap_filter_key (h : l.Pairwise (fun a b => key a ≤ key b)) {n : Nat}
    (hn : ∀ a ∈ l, key a < n) :
    (List.range n).flatMap (fun i => l.filter (fun a => key a == i)) = l := by
  induction n generalizing l with
  | zero =>
    cases l with
    | nil => rfl
    | cons a l => exact absurd (hn a List.mem_cons_self) (Nat.not_lt_zero _)
  | succ n ih =>
    have hlow : (l.filter (fun a => decide (key a < n))).Pairwise (fun a b => key a ≤ key b) :=
      h.sublist List.filter_sublist
    have hparts : ∀ i ∈ List.range n, l.filter (fun a => key a == i) =
        (l.filter (fun a => decide (key a < n))).filter (fun a => key a == i) := by
      intro i hi
      rw [List.filter_filter]
      refine List.filter_congr fun a _ => ?_
      have := List.mem_range.mp hi
      by_cases hkey : key a = i <;> simp [hkey, this]
    have hlast : l.filter (fun a => key a == n) = l.filter (fun a => !decide (key a < n)) := by
      refine List.filter_congr fun a ha => ?_
      have := hn a ha
      rw [Bool.eq_iff_iff, beq_iff_eq, Bool.not_eq_true', decide_eq_false_iff_not]
      omega
    have hdivide : l.Pairwise
        (fun a b => decide (key b < n) = true → decide (key a < n) = true) := by
      refine h.imp fun {a b} hab => ?_
      rw [decide_eq_true_eq, decide_eq_true_eq]
      exact Nat.lt_of_le_of_lt hab
    rw [List.range_succ, List.flatMap_append, List.flatMap_singleton, List.flatMap_congr hparts,
      ih hlow (fun a ha => by simpa using (List.mem_filter.mp ha).2), hlast,
      filter_append_filter_not hdivide]

end Parts

end Formwork
