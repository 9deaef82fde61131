import Mathlib.Data.List.Basic
import Mathlib.Data.List.Forall2
import Mathlib.Data.List.Infix
import Formwork.Text.Match

/-!
# What matchers find

A matcher succeeds exactly when the text begins with something that it reads and its continuation
succeeds on the rest. From left to right, `findFrom` passes over the places where a matcher fails
and takes a match whole, so that a text can be scanned part by part.
-/
namespace Formwork.Text.Match

variable {α : Type}

/-! ## Matching at the start of a text -/

/-- Two texts that differ in the case of letters at most, the first one in ASCII. -/
def Spells (word cs : List Char) : Prop :=
  List.Forall₂ (fun w c => sameLetter w c = true) word cs

/-- A spelling ends with the last letter of the word. -/
theorem Spells.concat {word cs : List Char} (w : Char) (h : Spells (word ++ [w]) cs) :
    ∃ init c, cs = init ++ [c] ∧ sameLetter w c = true := by
  induction word generalizing cs with
  | nil =>
    cases h with
    | cons hw hnil =>
      cases hnil
      exact ⟨[], _, rfl, hw⟩
  | cons d word ih =>
    cases h with
    | cons _ h =>
      obtain ⟨init, c, rfl, hc⟩ := ih h
      exact ⟨_ :: init, c, rfl, hc⟩

theorem toLower_of_isBlank {c : Char} (h : isBlank c = true) : c.toLower = c := by
  have hnot : ¬ (c.val ≥ 'A'.val ∧ c.val ≤ 'Z'.val) := by
    rintro ⟨hfirst, hlast⟩
    have hfirst : 65 ≤ c.toNat := hfirst
    have hlast : c.toNat ≤ 90 := hlast
    simp only [isBlank, Bool.or_eq_true, Bool.and_eq_true, decide_eq_true_eq, beq_iff_eq] at h
    omega
  unfold Char.toLower
  rw [dif_neg hnot]

/-- A blank is the same letter as a character only if the two agree in lower case. -/
theorem eq_toLower_of_sameLetter {w c : Char} (hblank : isBlank c = true)
    (h : sameLetter w c = true) : c = w.toLower := by
  simp only [sameLetter, toLower_of_isBlank hblank, Bool.or_eq_true, Bool.and_eq_true,
    beq_iff_eq] at h
  simp only [isBlank, Bool.or_eq_true, Bool.and_eq_true, decide_eq_true_eq, beq_iff_eq] at hblank
  rcases h with ((h | ⟨-, h⟩) | ⟨-, h⟩) | ⟨-, h⟩
  · exact h
  · omega
  · omega
  · omega

theorem one_eq_some {p : Char → Bool} {k : Rest α} {cs : List Char} {a : α} :
    one p k cs = some a ↔ ∃ c rest, cs = c :: rest ∧ p c = true ∧ k rest = some a := by
  cases cs with
  | nil => simp [one]
  | cons c rest =>
    by_cases h : p c = true
    · simp [one, h]
    · simp [one, h]

theorem one_isSome {p : Char → Bool} {k : Rest α} {cs : List Char} :
    (one p k cs).isSome ↔ ∃ c rest, cs = c :: rest ∧ p c = true ∧ (k rest).isSome := by
  cases cs with
  | nil => simp [one]
  | cons c rest =>
    by_cases h : p c = true
    · simp [one, h]
    · simp [one, h]

theorem letters_eq_some {word : List Char} {k : Rest α} {cs : List Char} {a : α} :
    letters word k cs = some a ↔
      ∃ run rest, cs = run ++ rest ∧ Spells word run ∧ k rest = some a := by
  induction word generalizing cs with
  | nil => simp [letters, Spells, List.forall₂_nil_left_iff]
  | cons w word ih =>
    rw [letters, one_eq_some]
    constructor
    · rintro ⟨c, rest, rfl, hc, hrest⟩
      obtain ⟨run, rest, rfl, hrun, hk⟩ := ih.mp hrest
      exact ⟨c :: run, rest, rfl, List.Forall₂.cons hc hrun, hk⟩
    · rintro ⟨run, rest, rfl, hrun, hk⟩
      cases hrun with
      | cons hc hrun => exact ⟨_, _, rfl, hc, ih.mpr ⟨_, rest, rfl, hrun, hk⟩⟩

theorem letters_isSome {word : List Char} {k : Rest α} {cs : List Char} :
    (letters word k cs).isSome ↔
      ∃ run rest, cs = run ++ rest ∧ Spells word run ∧ (k rest).isSome := by
  simp only [Option.isSome_iff_exists, letters_eq_some]
  constructor
  · rintro ⟨a, run, rest, hsplit, hrun, hk⟩
    exact ⟨run, rest, hsplit, hrun, a, hk⟩
  · rintro ⟨run, rest, hsplit, hrun, a, hk⟩
    exact ⟨a, run, rest, hsplit, hrun, hk⟩

theorem isSome_orElse (a b : Option α) : (a <|> b).isSome = (a.isSome || b.isSome) := by
  cases a <;> rfl

theorem orElse_none (a : Option α) : (a <|> none) = a := by
  cases a <;> rfl

theorem optional_isSome (m : Rest α → Rest α) (k : Rest α) (cs : List Char) :
    (optional m k cs).isSome = ((m k cs).isSome || (k cs).isSome) :=
  isSome_orElse _ _

theorem many_isSome {p : Char → Bool} {k : List Char → Rest α} {cs : List Char} :
    (many p k cs).isSome ↔
      ∃ run rest, cs = run ++ rest ∧ (∀ c ∈ run, p c = true) ∧ (k run rest).isSome := by
  induction cs generalizing k with
  | nil => simp [many]
  | cons c cs ih =>
    by_cases hc : p c = true
    · rw [many, if_pos hc, isSome_orElse, Bool.or_eq_true, ih]
      constructor
      · rintro (⟨run, rest, rfl, hrun, hk⟩ | hk)
        · exact ⟨c :: run, rest, rfl, List.forall_mem_cons.mpr ⟨hc, hrun⟩, hk⟩
        · exact ⟨[], c :: cs, rfl, by simp, hk⟩
      · rintro ⟨run, rest, heq, hrun, hk⟩
        cases run with
        | nil =>
          obtain rfl : rest = c :: cs := heq.symm
          exact Or.inr hk
        | cons d run =>
          obtain ⟨rfl, rfl⟩ := List.cons.inj heq
          exact Or.inl ⟨run, rest, rfl, (List.forall_mem_cons.mp hrun).2, hk⟩
    · rw [many, if_neg hc]
      constructor
      · intro hk
        exact ⟨[], c :: cs, rfl, by simp, hk⟩
      · rintro ⟨run, rest, heq, hrun, hk⟩
        cases run with
        | nil =>
          obtain rfl : rest = c :: cs := heq.symm
          exact hk
        | cons d run =>
          obtain ⟨rfl, rfl⟩ := List.cons.inj heq
          exact absurd (hrun c List.mem_cons_self) hc

theorem many1_isSome {p : Char → Bool} {k : List Char → Rest α} {cs : List Char} :
    (many1 p k cs).isSome ↔ ∃ run rest, cs = run ++ rest ∧ run ≠ [] ∧
      (∀ c ∈ run, p c = true) ∧ (k run rest).isSome := by
  cases cs with
  | nil => simp [many1]
  | cons c cs =>
    by_cases hc : p c = true
    · rw [many1, if_pos hc, many_isSome]
      constructor
      · rintro ⟨run, rest, rfl, hrun, hk⟩
        exact ⟨c :: run, rest, rfl, by simp, List.forall_mem_cons.mpr ⟨hc, hrun⟩, hk⟩
      · rintro ⟨run, rest, heq, hne, hrun, hk⟩
        cases run with
        | nil => exact absurd rfl hne
        | cons d run =>
          obtain ⟨rfl, rfl⟩ := List.cons.inj heq
          exact ⟨run, rest, rfl, (List.forall_mem_cons.mp hrun).2, hk⟩
    · rw [many1, if_neg hc]
      constructor
      · intro hk
        cases hk
      · rintro ⟨run, rest, heq, hne, hrun, hk⟩
        cases run with
        | nil => exact absurd rfl hne
        | cons d run =>
          obtain ⟨rfl, rfl⟩ := List.cons.inj heq
          exact absurd (hrun c List.mem_cons_self) hc

theorem atEnd_isSome {k : Rest α} {cs : List Char} :
    (atEnd k cs).isSome ↔ cs = [] ∧ (k []).isSome := by
  cases cs <;> simp [atEnd]

theorem letters_append {word cs : List Char} (h : Spells word cs) (k : Rest α)
    (rest : List Char) : letters word k (cs ++ rest) = k rest := by
  induction h with
  | nil => rfl
  | cons hc _ ih => rw [List.cons_append, letters, one, if_pos hc, ih]

theorem spells_self (word : List Char) : Spells word word :=
  List.forall₂_same.mpr fun w _ => by simp [sameLetter]

theorem letters_self (word : List Char) (k : Rest α) (rest : List Char) :
    letters word k (word ++ rest) = k rest :=
  letters_append (spells_self word) k rest

/-- A word that does not fit the start of a text does not fit the text. -/
theorem letters_append_eq_none {word pre : List Char} (hlength : word.length ≤ pre.length)
    (h : letters word some pre = none) (k : Rest α) (rest : List Char) :
    letters word k (pre ++ rest) = none := by
  induction word generalizing pre with
  | nil => cases h
  | cons w word ih =>
    cases pre with
    | nil => cases hlength
    | cons c pre =>
      rw [letters, one] at h
      rw [List.cons_append, letters, one]
      split
      · next hc =>
        rw [if_pos hc] at h
        exact ih (Nat.le_of_succ_le_succ hlength) h
      · rfl

/-- A run takes all it can when what follows the run is read. -/
theorem many_append {p : Char → Bool} {k : List Char → Rest α} (run : List Char)
    {rest : List Char} {a : α} (hrun : ∀ c ∈ run, p c = true)
    (hrest : ∀ c ∈ rest.head?, p c = false) (h : k run rest = some a) :
    many p k (run ++ rest) = some a := by
  induction run generalizing k with
  | nil =>
    cases rest with
    | nil => exact h
    | cons c rest =>
      have hc : ¬ p c = true := by simp [hrest c rfl]
      rw [List.nil_append, many, if_neg hc, h]
  | cons c run ih =>
    obtain ⟨hc, hrun⟩ := List.forall_mem_cons.mp hrun
    rw [List.cons_append, many, if_pos hc, ih hrun h]
    rfl

theorem blanks_of_head {k : Rest α} {cs : List Char} {a : α}
    (hcs : ∀ c ∈ cs.head?, isBlank c = false) (h : k cs = some a) : blanks k cs = some a :=
  many_append [] (by simp) hcs h

theorem blanks_cons {k : Rest α} {c : Char} {cs : List Char} {a : α} (hc : isBlank c = true)
    (hcs : ∀ c ∈ cs.head?, isBlank c = false) (h : k cs = some a) :
    blanks k (c :: cs) = some a :=
  many_append [c] (by simp [hc]) hcs h

theorem blanks1_cons {k : Rest α} {c : Char} {cs : List Char} {a : α} (hc : isBlank c = true)
    (hcs : ∀ c ∈ cs.head?, isBlank c = false) (h : k cs = some a) :
    blanks1 k (c :: cs) = some a := by
  rw [blanks1, many1, if_pos hc]
  exact many_append [] (by simp) hcs h

/-- What is read with any run before it is read with the longest one. -/
theorem many_of_total {p : Char → Bool} {k : List Char → Rest α}
    (h : ∀ run rest, (k run rest).isSome = true) (cs : List Char) :
    many p k cs = k (cs.takeWhile p) (cs.dropWhile p) := by
  induction cs generalizing k with
  | nil => rfl
  | cons c cs ih =>
    rw [many, List.takeWhile_cons, List.dropWhile_cons]
    split
    · rw [ih fun run rest => h (c :: run) rest]
      obtain ⟨a, ha⟩ := Option.isSome_iff_exists.mp (h (c :: cs.takeWhile p) (cs.dropWhile p))
      rw [ha]
      rfl
    · rfl

/-- What is not read behind a part of a run is read behind the whole run only. -/
theorem many_of_stuck {p : Char → Bool} {k : List Char → Rest α}
    (h : ∀ run c rest, p c = true → k run (c :: rest) = none) (cs : List Char) :
    many p k cs = k (cs.takeWhile p) (cs.dropWhile p) := by
  induction cs generalizing k with
  | nil => rfl
  | cons c cs ih =>
    rw [many, List.takeWhile_cons, List.dropWhile_cons]
    split
    · next hc =>
      rw [ih fun run => h (c :: run), h [] c cs hc]
      cases k (c :: cs.takeWhile p) (cs.dropWhile p) <;> rfl
    · rfl

theorem blanks1_eq_some {k : Rest α} (h : ∀ c rest, isBlank c = true → k (c :: rest) = none)
    {cs : List Char} {a : α} : blanks1 k cs = some a ↔
      ∃ gap rest, cs = gap ++ rest ∧ gap ≠ [] ∧ (∀ c ∈ gap, isBlank c = true) ∧
        k rest = some a := by
  constructor
  · intro hread
    cases cs with
    | nil => cases hread
    | cons c cs =>
      rw [blanks1, many1] at hread
      split at hread
      · next hc =>
        rw [many_of_stuck fun _ => h] at hread
        refine ⟨c :: cs.takeWhile isBlank, cs.dropWhile isBlank, by simp, by simp, ?_, hread⟩
        exact List.forall_mem_cons.mpr ⟨hc, List.all_eq_true.mp List.all_takeWhile⟩
      · cases hread
  · rintro ⟨gap, rest, rfl, hne, hgap, hread⟩
    obtain ⟨c, gap, rfl⟩ := List.exists_cons_of_ne_nil hne
    obtain ⟨hc, hgap⟩ := List.forall_mem_cons.mp hgap
    have hrest : ∀ d ∈ rest.head?, isBlank d = false := by
      intro d hd
      obtain ⟨tail, rfl⟩ := List.head?_eq_some_iff.mp hd
      by_contra hblank
      rw [h d tail (Bool.not_eq_false _ ▸ hblank)] at hread
      cases hread
    rw [List.cons_append, blanks1, many1, if_pos hc]
    exact many_append gap hgap hrest hread

/-- What is read behind a short run stands at an end of the text. -/
theorem exists_of_few {p : Char → Bool} {k : List Char → Rest α} {cs : List Char}
    (h : (few p k cs).isSome = true) :
    ∃ run rest, cs = run ++ rest ∧ (k run rest).isSome = true := by
  induction cs generalizing k with
  | nil => exact ⟨[], [], rfl, h⟩
  | cons c cs ih =>
    rw [few, isSome_orElse, Bool.or_eq_true] at h
    rcases h with h | h
    · exact ⟨[], c :: cs, rfl, h⟩
    · split at h
      · obtain ⟨run, rest, rfl, hread⟩ := ih h
        exact ⟨c :: run, rest, rfl, hread⟩
      · cases h

/-- A short run passes over the places where what follows it is not read. -/
theorem few_pass {p : Char → Bool} {k : List Char → Rest α} {pre rest : List Char}
    (hpre : ∀ c ∈ pre, p c = true)
    (h : ∀ front t, pre = front ++ t → t ≠ [] → k front (t ++ rest) = none) :
    few p k (pre ++ rest) = few p (fun run => k (pre ++ run)) rest := by
  induction pre generalizing k with
  | nil => rfl
  | cons c pre ih =>
    obtain ⟨hc, hpre⟩ := List.forall_mem_cons.mp hpre
    have hfail : k [] (c :: (pre ++ rest)) = none := h [] (c :: pre) rfl (by simp)
    have ih := ih (k := fun run => k (c :: run)) hpre fun front t hsplit hne =>
      h (c :: front) t (congrArg (c :: ·) hsplit) hne
    rw [List.cons_append, few, hfail, if_pos hc]
    exact ih

theorem few_append {p : Char → Bool} {k : Rest α} {pre rest : List Char}
    (hpre : ∀ c ∈ pre, p c = true) (h : ∀ t, t ≠ [] → t <:+ pre → k (t ++ rest) = none) :
    few p (fun _ => k) (pre ++ rest) = few p (fun _ => k) rest :=
  few_pass hpre fun front t hsplit hne => h t hne ⟨front, hsplit.symm⟩

theorem few_of_isSome {p : Char → Bool} {k : List Char → Rest α} {cs : List Char} {a : α}
    (h : k [] cs = some a) : few p k cs = some a := by
  cases cs with
  | nil => exact h
  | cons c cs =>
    rw [few, h]
    rfl

/-! ## What is answered -/

/-- Whatever is answered has a property. -/
def Answers (k : Rest α) (P : α → Prop) : Prop :=
  ∀ cs a, k cs = some a → P a

section Answers

variable {P : α → Prop} {p : Char → Bool}

theorem Answers.one {k : Rest α} (h : Answers k P) : Answers (one p k) P := by
  intro cs a hread
  obtain ⟨c, rest, rfl, -, hread⟩ := one_eq_some.mp hread
  exact h rest a hread

/-- A run hands characters of its class to what is read behind it. -/
theorem answers_many {k : List Char → Rest α}
    (h : ∀ run, (∀ c ∈ run, p c = true) → Answers (k run) P) : Answers (many p k) P := by
  intro cs a hread
  induction cs generalizing k with
  | nil => exact h [] (by simp) [] a hread
  | cons c cs ih =>
    rw [many] at hread
    split at hread
    · next hc =>
      rw [Option.orElse_eq_orElse, Option.orElse_eq_or, Option.or_eq_some_iff] at hread
      rcases hread with hread | ⟨-, hread⟩
      · exact ih (fun run hrun => h (c :: run) (List.forall_mem_cons.mpr ⟨hc, hrun⟩)) hread
      · exact h [] (by simp) _ a hread
    · exact h [] (by simp) _ a hread

theorem answers_many1 {k : List Char → Rest α}
    (h : ∀ run, run ≠ [] → (∀ c ∈ run, p c = true) → Answers (k run) P) :
    Answers (many1 p k) P := by
  intro cs a hread
  cases cs with
  | nil => cases hread
  | cons c cs =>
    rw [many1] at hread
    split at hread
    · next hc =>
      refine answers_many (fun run hrun => ?_) cs a hread
      exact h (c :: run) (List.cons_ne_nil c run) (List.forall_mem_cons.mpr ⟨hc, hrun⟩)
    · cases hread

end Answers

/-! ## Scanning a text -/

/-- An end of two texts lies in the second or begins in the first. -/
theorem suffix_append_cases {cs rest t : List Char} (h : t <:+ cs ++ rest) :
    t <:+ rest ∨ ∃ front, front <:+ cs ∧ t = front ++ rest := by
  rcases List.suffix_or_suffix_of_suffix h (List.suffix_append cs rest) with h' | ⟨front, rfl⟩
  · exact Or.inl h'
  · exact Or.inr ⟨front, List.suffix_append_self_iff.mp h, rfl⟩

theorem cons_suffix_append {c : Char} {t cs rest : List Char} (h : c :: t <:+ cs ++ rest) :
    c :: t <:+ rest ∨ ∃ front, c :: front <:+ cs ∧ t = front ++ rest := by
  rcases suffix_append_cases h with h | ⟨front, hfront, heq⟩
  · exact Or.inl h
  · cases front with
    | nil => exact Or.inl ⟨[], heq⟩
    | cons d front =>
      obtain ⟨rfl, rfl⟩ := List.cons.inj heq
      exact Or.inr ⟨front, hfront, rfl⟩

theorem getLast?_cons_or (c : Char) (pre : List Char) (before : Option Char) :
    (c :: pre).getLast?.or before = pre.getLast?.or (some c) := by
  rw [List.getLast?_cons]
  cases pre.getLast? <;> rfl

section Scan

variable {m : Option Char → List Char → Option (α × List Char)} {pre rest : List Char}

/-- A part in which no match begins is passed over. -/
theorem findFrom_pass {before : Option Char}
    (h : ∀ front t, pre = front ++ t → t ≠ [] → m (front.getLast?.or before) (t ++ rest) = none)
    (offset : Nat) : findFrom m offset before (pre ++ rest) =
      findFrom m (offset + pre.length) (pre.getLast?.or before) rest := by
  induction pre generalizing offset before with
  | nil => rfl
  | cons c pre ih =>
    have hfail : m before (c :: (pre ++ rest)) = none := h [] (c :: pre) rfl (by simp)
    have ih := @ih (some c) fun front t hsplit hne => by
      rw [← getLast?_cons_or c front before]
      exact h (c :: front) t (congrArg (c :: ·) hsplit) hne
    rw [List.cons_append, findFrom, hfail]
    dsimp only
    rw [ih, List.length_cons, Nat.add_comm pre.length 1, Nat.add_assoc, getLast?_cons_or]

/-- A match is taken whole, and the search goes on behind it. -/
theorem findFrom_take {before : Option Char} {a : α} (hne : pre ≠ [])
    (h : m before (pre ++ rest) = some (a, rest)) (offset : Nat) :
    findFrom m offset before (pre ++ rest) =
      ⟨a, offset, offset + pre.length, pre⟩ ::
        findFrom m (offset + pre.length) pre.getLast? rest := by
  obtain ⟨c, pre, rfl⟩ := List.exists_cons_of_ne_nil hne
  have hsize : (c :: (pre ++ rest)).length - rest.length = (c :: pre).length := by
    simp only [List.length_cons, List.length_append]
    omega
  have hshorter : rest.length < (c :: (pre ++ rest)).length := by
    simp only [List.length_cons, List.length_append]
    omega
  rw [List.cons_append] at h ⊢
  rw [findFrom, h]
  dsimp only
  rw [if_pos hshorter, hsize, ← List.cons_append, List.take_left]

/-- Matches are found in the order of their offsets. -/
theorem pairwise_start_findFrom (offset : Nat) (before : Option Char) (text : List Char) :
    (findFrom m offset before text).Pairwise (fun f g => f.start < g.start) ∧
      ∀ f ∈ findFrom m offset before text, offset ≤ f.start := by
  fun_induction findFrom m offset before text with
  | case1 => simp
  | case2 offset before c cs a rest hmatch hshorter size covered ih =>
    obtain ⟨hpairwise, hbound⟩ := ih
    have hsize : 0 < size := Nat.sub_pos_of_lt hshorter
    refine ⟨List.Pairwise.cons (fun g hg => ?_) hpairwise, ?_⟩
    · exact Nat.lt_of_lt_of_le (Nat.lt_add_of_pos_right hsize) (hbound g hg)
    · refine List.forall_mem_cons.mpr ⟨Nat.le_refl _, fun g hg => ?_⟩
      exact Nat.le_trans (Nat.le_add_right _ _) (hbound g hg)
  | case3 offset before c cs a rest hmatch hshorter ih =>
    exact ⟨ih.1, fun f hf => Nat.le_of_succ_le (ih.2 f hf)⟩
  | case4 offset before c cs hmatch ih =>
    exact ⟨ih.1, fun f hf => Nat.le_of_succ_le (ih.2 f hf)⟩

/-- A match that is found is one of the matcher. -/
theorem exists_of_mem_findFrom {before : Option Char} {offset : Nat} {text : List Char}
    {f : Found α} (h : f ∈ findFrom m offset before text) :
    ∃ before cs rest, m before cs = some (f.value, rest) := by
  fun_induction findFrom m offset before text with
  | case1 => cases h
  | case2 offset before c cs a rest hmatch hshorter size covered ih =>
    rcases List.mem_cons.mp h with rfl | h
    · exact ⟨before, c :: cs, rest, hmatch⟩
    · exact ih h
  | case3 offset before c cs a rest hmatch hshorter ih => exact ih h
  | case4 offset before c cs hmatch ih => exact ih h

end Scan

variable {m : List Char → Option (α × List Char)} {pre rest : List Char}

/-- What a matcher finds does not depend on the character before when it does not look at it. -/
theorem findFrom_before (offset : Nat) (before before' : Option Char) (text : List Char) :
    findFrom (fun _ => m) offset before text = findFrom (fun _ => m) offset before' text := by
  cases text with
  | nil => rw [findFrom, findFrom]
  | cons c cs => rw [findFrom, findFrom]

theorem findFrom_nil (offset : Nat) (before : Option Char) :
    findFrom (fun _ => m) offset before [] = [] := by
  rw [findFrom]

/-- Where anything is read, something is found. -/
theorem findFrom_ne_nil {before : Option Char} {offset : Nat} {a : α} {after : List Char}
    (h : m rest = some (a, after)) (hlt : after.length < rest.length) :
    findFrom (fun _ => m) offset before (pre ++ rest) ≠ [] := by
  induction pre generalizing offset before with
  | nil =>
    cases rest with
    | nil => cases hlt
    | cons c cs =>
      rw [List.nil_append, findFrom, h]
      dsimp only
      rw [if_pos hlt]
      exact List.cons_ne_nil _ _
  | cons c pre ih =>
    rw [List.cons_append, findFrom]
    split
    · split
      · exact List.cons_ne_nil _ _
      · exact ih
    · exact ih

theorem findFrom_skip (h : ∀ t, t ≠ [] → t <:+ pre → m (t ++ rest) = none) (offset : Nat) :
    findFrom (fun _ => m) offset none (pre ++ rest) =
      findFrom (fun _ => m) (offset + pre.length) none rest :=
  (findFrom_pass (fun front t hsplit hne => h t hne ⟨front, hsplit.symm⟩) offset).trans
    (findFrom_before _ _ none rest)

theorem findFrom_hit {a : α} (hne : pre ≠ []) (h : m (pre ++ rest) = some (a, rest))
    (offset : Nat) :
    findFrom (fun _ => m) offset none (pre ++ rest) =
      ⟨a, offset, offset + pre.length, pre⟩ ::
        findFrom (fun _ => m) (offset + pre.length) none rest := by
  rw [findFrom_take (m := fun _ => m) hne h, findFrom_before _ _ none]

/-- What the matches in a text read. -/
def readings (m : List Char → Option (α × List Char)) (text : List Char) : List α :=
  (findAll (fun _ => m) text).map (·.value)

/-- What is read does not depend on where the text stands. -/
theorem map_value_findFrom (offset offset' : Nat) (before before' : Option Char)
    (text : List Char) :
    (findFrom (fun _ => m) offset before text).map (·.value) =
      (findFrom (fun _ => m) offset' before' text).map (·.value) := by
  fun_induction findFrom (fun _ => m) offset before text generalizing offset' before' with
  | case1 => rw [findFrom_nil]
  | case2 offset before c cs a rest hmatch hshorter size covered ih =>
    rw [findFrom, hmatch]
    dsimp only
    rw [if_pos hshorter, List.map_cons, List.map_cons]
    exact congrArg _ (ih _ _)
  | case3 offset before c cs a rest hmatch hshorter ih =>
    rw [findFrom, hmatch]
    dsimp only
    rw [if_neg hshorter]
    exact ih _ _
  | case4 offset before c cs hmatch ih =>
    rw [findFrom, hmatch]
    exact ih _ _

theorem readings_nil : readings m [] = [] := by
  rw [readings, findAll, findFrom_nil]
  rfl

theorem readings_skip (h : ∀ t, t ≠ [] → t <:+ pre → m (t ++ rest) = none) :
    readings m (pre ++ rest) = readings m rest := by
  rw [readings, findAll, findFrom_skip h]
  exact map_value_findFrom _ _ _ _ _

theorem readings_hit {a : α} (hne : pre ≠ []) (h : m (pre ++ rest) = some (a, rest)) :
    readings m (pre ++ rest) = a :: readings m rest := by
  rw [readings, findAll, findFrom_hit hne h, List.map_cons]
  exact congrArg _ (map_value_findFrom _ _ _ _ _)

/-- A text that is read as a whole has no other readings. -/
theorem readings_whole {text : List Char} {a : α} (hne : text ≠ [])
    (h : m text = some (a, [])) : readings m text = [a] := by
  have hhit : readings m (text ++ []) = a :: readings m [] :=
    readings_hit hne (by rwa [List.append_nil])
  rwa [List.append_nil, readings_nil] at hhit

/-- No match begins in a text, whatever follows it. -/
def Passes (m : List Char → Option (α × List Char)) (pre : List Char) : Prop :=
  ∀ t, t ≠ [] → t <:+ pre → ∀ rest, m (t ++ rest) = none

theorem passes_nil : Passes m [] := by
  intro t hne ht
  exact absurd (List.suffix_nil.mp ht) hne

theorem Passes.append {more : List Char} (h : Passes m pre) (hmore : Passes m more) :
    Passes m (pre ++ more) := by
  intro t hne ht rest
  rcases suffix_append_cases ht with ht | ⟨front, hfront, rfl⟩
  · exact hmore t hne ht rest
  · rw [List.append_assoc]
    cases front with
    | nil => exact hmore more hne (List.suffix_refl more) rest
    | cons c front => exact h (c :: front) (List.cons_ne_nil c front) hfront (more ++ rest)

theorem Passes.readings (h : Passes m pre) (rest : List Char) :
    readings m (pre ++ rest) = Match.readings m rest :=
  readings_skip fun t hne ht => h t hne ht rest

/-! ## The first match -/

section First

/-- What is found at the first place of a text where anything is. `R` relates the character before a
place and the text from there on to what is found. -/
def FirstAt (R : Option Char → List Char → α → Prop) (before : Option Char) (text : List Char)
    (a : α) : Prop :=
  ∃ pre cs, text = pre ++ cs ∧ R (pre.getLast?.or before) cs a ∧
    ∀ pre' cs', text = pre' ++ cs' → pre'.length < pre.length →
      ∀ b, ¬ R (pre'.getLast?.or before) cs' b

variable {R : Option Char → List Char → α → Prop}
  {m : Option Char → List Char → Option (α × List Char)}

theorem firstAt_cons {before : Option Char} {c : Char} {cs : List Char} {a : α} :
    FirstAt R before (c :: cs) a ↔
      R before (c :: cs) a ∨ (∀ b, ¬ R before (c :: cs) b) ∧ FirstAt R (some c) cs a := by
  constructor
  · rintro ⟨pre, after, hsplit, hfound, hfirst⟩
    cases pre with
    | nil =>
      obtain rfl : after = c :: cs := hsplit.symm
      exact Or.inl hfound
    | cons d pre =>
      obtain ⟨rfl, rfl⟩ := List.cons.inj hsplit
      refine Or.inr ⟨hfirst [] _ rfl (Nat.succ_pos _), pre, after, rfl, ?_, ?_⟩
      · rw [← getLast?_cons_or c pre before]
        exact hfound
      · intro pre' cs' hsplit' hshorter
        rw [← getLast?_cons_or c pre' before]
        exact hfirst (c :: pre') cs' (congrArg (c :: ·) hsplit') (Nat.succ_lt_succ hshorter)
  · rintro (hfound | ⟨hnone, pre, after, rfl, hfound, hfirst⟩)
    · exact ⟨[], c :: cs, rfl, hfound, fun pre' cs' _ h => absurd h (Nat.not_lt_zero _)⟩
    · refine ⟨c :: pre, after, rfl, ?_, ?_⟩
      · rw [getLast?_cons_or]
        exact hfound
      · intro pre' cs' hsplit' hshorter
        cases pre' with
        | nil =>
          obtain rfl : cs' = c :: (pre ++ after) := hsplit'.symm
          exact hnone
        | cons d pre' =>
          obtain ⟨rfl, htail⟩ := List.cons.inj hsplit'
          rw [getLast?_cons_or]
          exact hfirst pre' cs' htail (Nat.lt_of_succ_lt_succ hshorter)

/-- Where anything is found, something is found first. -/
theorem exists_firstAt {before : Option Char} {text pre cs : List Char} {a : α}
    (hsplit : text = pre ++ cs) (h : R (pre.getLast?.or before) cs a) :
    ∃ b, FirstAt R before text b := by
  induction pre generalizing text before with
  | nil => exact ⟨a, [], cs, hsplit, h, fun pre' cs' _ h => absurd h (Nat.not_lt_zero _)⟩
  | cons c pre ih =>
    rw [getLast?_cons_or] at h
    subst hsplit
    by_cases hnone : ∀ b, ¬ R before (c :: (pre ++ cs)) b
    · obtain ⟨b, hb⟩ := ih rfl h
      exact ⟨b, firstAt_cons.mpr (Or.inr ⟨hnone, hb⟩)⟩
    · obtain ⟨b, hb⟩ := not_forall_not.mp hnone
      exact ⟨b, firstAt_cons.mpr (Or.inl hb)⟩

/-- A matcher that finds what a relation says, and takes some of the text with it. -/
structure Finds (m : Option Char → List Char → Option (α × List Char))
    (R : Option Char → List Char → α → Prop) : Prop where
  iff : ∀ before cs a, R before cs a ↔ ∃ rest, m before cs = some (a, rest)
  shorter : ∀ before cs a rest, m before cs = some (a, rest) → rest.length < cs.length

theorem head?_findFrom (hm : Finds m R) (offset : Nat) (before : Option Char) (text : List Char)
    (a : α) : (findFrom m offset before text).head?.map (·.value) = some a ↔
      FirstAt R before text a := by
  induction text generalizing offset before with
  | nil =>
    rw [findFrom]
    constructor
    · intro h
      cases h
    · rintro ⟨pre, cs, hsplit, hfound, -⟩
      obtain ⟨-, rfl⟩ := List.append_eq_nil_iff.mp hsplit.symm
      obtain ⟨rest, hmatch⟩ := (hm.iff _ _ _).mp hfound
      exact absurd (hm.shorter _ _ _ _ hmatch) (Nat.not_lt_zero _)
  | cons c cs ih =>
    rw [firstAt_cons, findFrom]
    simp only [hm.iff]
    cases hmatch : m before (c :: cs) with
    | none => simp [ih]
    | some found =>
      obtain ⟨b, rest⟩ := found
      dsimp only
      rw [if_pos (hm.shorter _ _ _ _ hmatch)]
      simp

theorem find?_eq_some (hm : Finds m R) {text : List Char} {a : α} :
    (find? m text).map (·.value) = some a ↔ FirstAt R none text a :=
  head?_findFrom hm 0 none text a

end First

/-! ## Texts made of parts -/

/-- The parts of a text with the offsets at which they start. -/
def located {β : Type} (f : β → List Char) : Nat → List β → List (β × Nat)
  | _, [] => []
  | offset, b :: bs => (b, offset) :: located f (offset + (f b).length) bs

theorem map_fst_located {β : Type} (f : β → List Char) (offset : Nat) (bs : List β) :
    (located f offset bs).map (·.1) = bs := by
  induction bs generalizing offset with
  | nil => rfl
  | cons b bs ih => rw [located, List.map_cons, ih]

theorem located_append {β : Type} (f : β → List Char) (offset : Nat) (as bs : List β) :
    located f offset (as ++ bs) =
      located f offset as ++ located f (offset + (as.flatMap f).length) bs := by
  induction as generalizing offset with
  | nil => rfl
  | cons a as ih =>
    rw [List.cons_append, located, located, ih, List.flatMap_cons, List.length_append,
      Nat.add_assoc]
    rfl

/-- A part stands in the text where it is located. -/
theorem exists_of_mem_located {β : Type} {f : β → List Char} {offset start : Nat} {bs : List β}
    {b : β} (h : (b, start) ∈ located f offset bs) :
    ∃ before after, bs.flatMap f = before ++ f b ++ after ∧ start = offset + before.length := by
  induction bs generalizing offset with
  | nil => cases h
  | cons c bs ih =>
    rcases List.mem_cons.mp h with heq | h
    · obtain ⟨rfl, rfl⟩ := Prod.mk.inj heq
      exact ⟨[], bs.flatMap f, rfl, rfl⟩
    · obtain ⟨before, after, hsplit, hstart⟩ := ih h
      refine ⟨f c ++ before, after, ?_, ?_⟩
      · rw [List.flatMap_cons, hsplit]
        simp only [List.append_assoc]
      · rw [hstart, List.length_append, Nat.add_assoc]

/-- Where each part is either one match or nothing that a match begins in, the matches in a text are
those parts. -/
theorem findFrom_flatMap {β : Type} {f : β → List Char} (read : β → Option α)
    (hit : ∀ b a, read b = some a → f b ≠ [] ∧ ∀ rest, m (f b ++ rest) = some (a, rest))
    (skip : ∀ b, read b = none → ∀ t, t ≠ [] → t <:+ f b → ∀ rest, m (t ++ rest) = none)
    (offset : Nat) (bs : List β) :
    findFrom (fun _ => m) offset none (bs.flatMap f) =
      (located f offset bs).filterMap (fun p =>
        (read p.1).map (fun a => ⟨a, p.2, p.2 + (f p.1).length, f p.1⟩)) := by
  induction bs generalizing offset with
  | nil => exact findFrom_nil _ _
  | cons b bs ih =>
    rw [List.flatMap_cons, located, List.filterMap_cons]
    cases hread : read b with
    | none => rw [findFrom_skip fun t hne ht => skip b hread t hne ht _, ih, Option.map_none]
    | some a =>
      obtain ⟨hne, hmatch⟩ := hit b a hread
      rw [findFrom_hit hne (hmatch _), ih, Option.map_some]

end Formwork.Text.Match
