import Mathlib.Data.List.Infix
import Mathlib.Data.List.TakeWhile
import Formwork.Proofs.Schema.Literal

/-!
# Heads of INSERTs

Coverage looks in a script for the head of an INSERT that stages an attribute: three words with
blanks between them, the case of letters ignored. A head lies within letters and blanks, so none
reaches across a character of another kind, and doubling the quotes of a text makes no head.
-/
namespace Formwork.Coverage

open Text.Match Schema

/-! ## Heads of INSERTs -/

/-- The head of an INSERT that stages an attribute. -/
def stagingHead {α : Type} (k : Rest α) : Rest α :=
  word "INSERT" <| blanks1 <| word "INTO" <| blanks1 <| word "MAXATTRIBUTECFG" k

/-- Whether a text begins with the head of an INSERT that stages an attribute. -/
def beginsStaging (cs : List Char) : Bool :=
  (stagingHead (fun rest => some ((), rest)) cs).isSome

/-- Whether a text has the head of an INSERT that stages an attribute anywhere. -/
def mentionsStaging (text : String) : Bool :=
  text.toList.tails.any beginsStaging

/-- A text that is such a head. -/
def IsStagingHead (cs : List Char) : Prop :=
  ∃ insert gap into gap' table, cs = insert ++ gap ++ into ++ gap' ++ table ∧
    Spells "INSERT".toList insert ∧ (∀ c ∈ gap, Text.isBlank c = true) ∧ gap ≠ [] ∧
    Spells "INTO".toList into ∧ (∀ c ∈ gap', Text.isBlank c = true) ∧ gap' ≠ [] ∧
    Spells "MAXATTRIBUTECFG".toList table

theorem stagingHead_isSome {α : Type} {k : Rest α} {cs : List Char} :
    (stagingHead k cs).isSome ↔
      ∃ head rest, cs = head ++ rest ∧ IsStagingHead head ∧ (k rest).isSome := by
  simp only [stagingHead, word, blanks1, letters_isSome, many1_isSome]
  constructor
  · rintro ⟨insert, _, rfl, hinsert, gap, _, rfl, hgap, hblank, into, _, rfl, hinto, gap', _, rfl,
      hgap', hblank', table, rest, rfl, htable, hk⟩
    refine ⟨insert ++ gap ++ into ++ gap' ++ table, rest, by simp, ?_, hk⟩
    exact ⟨insert, gap, into, gap', table, rfl, hinsert, hblank, hgap, hinto, hblank', hgap',
      htable⟩
  · rintro ⟨_, rest, rfl, ⟨insert, gap, into, gap', table, rfl, hinsert, hblank, hgap, hinto,
      hblank', hgap', htable⟩, hk⟩
    exact ⟨insert, _, by simp, hinsert, gap, _, rfl, hgap, hblank, into, _, rfl, hinto, gap', _,
      rfl, hgap', hblank', table, rest, rfl, htable, hk⟩

theorem beginsStaging_iff {cs : List Char} :
    beginsStaging cs = true ↔ ∃ head rest, cs = head ++ rest ∧ IsStagingHead head := by
  rw [beginsStaging, stagingHead_isSome]
  simp

/-- The characters of such heads. -/
def isStagingChar (c : Char) : Bool :=
  Text.isBlank c || "INSERTOMAXUBCFG".toList.any (fun w => Text.sameLetter w c)

theorem isStagingChar_of_spells {w cs : List Char} (hw : ∀ d ∈ w, d ∈ "INSERTOMAXUBCFG".toList)
    (h : Spells w cs) {c : Char} (hc : c ∈ cs) : isStagingChar c = true := by
  induction h with
  | nil => cases hc
  | @cons d e w cs hde _ ih =>
    obtain ⟨hd, hw⟩ := List.forall_mem_cons.mp hw
    rcases List.mem_cons.mp hc with rfl | hc
    · exact Bool.or_eq_true_iff.mpr (Or.inr (List.any_eq_true.mpr ⟨d, hd, hde⟩))
    · exact ih hw hc

theorem IsStagingHead.isStagingChar {cs : List Char} (h : IsStagingHead cs) :
    ∀ c ∈ cs, isStagingChar c = true := by
  obtain ⟨insert, gap, into, gap', table, rfl, hinsert, hblank, -, hinto, hblank', -, htable⟩ := h
  have hgap : ∀ c, Text.isBlank c = true → Coverage.isStagingChar c = true :=
    fun c hc => Bool.or_eq_true_iff.mpr (Or.inl hc)
  intro c hc
  simp only [List.mem_append] at hc
  rcases hc with (((hc | hc) | hc) | hc) | hc
  · exact isStagingChar_of_spells (by simp) hinsert hc
  · exact hgap c (hblank c hc)
  · exact isStagingChar_of_spells (by simp) hinto hc
  · exact hgap c (hblank' c hc)
  · exact isStagingChar_of_spells (by simp) htable hc

/-- A head begins with a letter I. -/
theorem IsStagingHead.exists_first {cs : List Char} (h : IsStagingHead cs) :
    ∃ c rest, cs = c :: rest ∧ Text.sameLetter 'I' c = true := by
  obtain ⟨insert, gap, into, gap', table, rfl, hinsert, -⟩ := h
  cases hinsert with
  | cons hc _ => exact ⟨_, _, rfl, hc⟩

/-- A head ends with a letter. -/
theorem IsStagingHead.exists_last {cs : List Char} (h : IsStagingHead cs) :
    ∃ init c, cs = init ++ [c] ∧ Text.isBlank c = false := by
  obtain ⟨insert, gap, into, gap', table, rfl, -, -, -, -, -, -, htable⟩ := h
  have htable : Spells ("MAXATTRIBUTECF".toList ++ ['G']) table := htable
  obtain ⟨init, c, rfl, hc⟩ := htable.concat
  refine ⟨insert ++ gap ++ into ++ gap' ++ init, c, by simp, ?_⟩
  by_contra hblank
  rw [Bool.not_eq_false] at hblank
  have heq := eq_toLower_of_sameLetter hblank hc
  rw [heq] at hblank
  revert hblank
  decide

theorem beginsStaging_eq_false {c : Char} (h : Text.sameLetter 'I' c = false) (cs : List Char) :
    beginsStaging (c :: cs) = false := by
  by_contra hbegins
  obtain ⟨head, rest, heq, hhead⟩ := beginsStaging_iff.mp (Bool.not_eq_false _ ▸ hbegins)
  obtain ⟨d, head, rfl, hd⟩ := hhead.exists_first
  obtain ⟨rfl, -⟩ := List.cons.inj heq
  rw [h] at hd
  cases hd

/-- The first character of a text that is no blank cannot stand in a head. -/
def Guarded (cs : List Char) : Prop :=
  ∀ c ∈ (cs.dropWhile Text.isBlank).head?, isStagingChar c = false

theorem guarded_cons {c : Char} (h : isStagingChar c = false) (cs : List Char) :
    Guarded (c :: cs) := by
  have hblank : ¬ Text.isBlank c = true := by
    rw [isStagingChar, Bool.or_eq_false_iff] at h
    simp [h.1]
  intro d hd
  rw [List.dropWhile_cons_of_neg hblank, List.head?_cons, Option.mem_some_iff] at hd
  exact hd ▸ h

theorem Guarded.cons {c : Char} {cs : List Char} (h : Guarded cs)
    (hblank : Text.isBlank c = true) : Guarded (c :: cs) := by
  rw [Guarded, List.dropWhile_cons_of_pos hblank]
  exact h

/-- No head reaches into a guarded text. -/
theorem beginsStaging_append {cs rest : List Char} (hrest : Guarded rest)
    (h : beginsStaging (cs ++ rest) = true) : beginsStaging cs = true := by
  obtain ⟨head, after, heq, hhead⟩ := beginsStaging_iff.mp h
  rcases List.append_eq_append_iff.mp heq with ⟨reach, rfl, rfl⟩ | ⟨left, rfl, -⟩
  · -- A head that reaches into `rest` ends with a letter there, and the first one is no letter.
    cases hfirst : reach.dropWhile Text.isBlank with
    | nil =>
      have hblank : ∀ c ∈ reach, Text.isBlank c = true := List.dropWhile_eq_nil_iff.mp hfirst
      obtain ⟨init, c, hlast, hc⟩ := hhead.exists_last
      rcases List.eq_nil_or_concat reach with rfl | ⟨front, d, rfl⟩
      · exact beginsStaging_iff.mpr ⟨cs, [], by simp, by simpa using hhead⟩
      · rw [List.concat_eq_append, ← List.append_assoc] at hlast
        obtain ⟨-, rfl⟩ := List.append_inj' hlast rfl |>.imp_right List.singleton_inj.mp
        rw [hblank d (by simp)] at hc
        cases hc
    | cons c more =>
      have hmem : c ∈ reach := (List.dropWhile_suffix Text.isBlank).subset
        (hfirst ▸ List.mem_cons_self)
      have hdrop : (reach ++ after).dropWhile Text.isBlank = c :: (more ++ after) := by
        rw [List.dropWhile_append, hfirst]
        rfl
      have hc := hrest c (by rw [hdrop]; rfl)
      rw [hhead.isStagingChar c (by simp [hmem])] at hc
      cases hc
  · exact beginsStaging_iff.mpr ⟨head, left, rfl, hhead⟩

/-! ## Texts without heads -/

/-- No head begins anywhere in a text. -/
def Silent (cs : List Char) : Prop :=
  ∀ t, t <:+ cs → beginsStaging t = false

theorem silent_iff {text : String} : Silent text.toList ↔ mentionsStaging text = false := by
  simp only [mentionsStaging, List.any_eq_false, List.mem_tails, Bool.not_eq_true, Silent]

theorem Silent.beginsStaging_append {cs rest t : List Char} (hcs : Silent cs)
    (hrest : Guarded rest) (ht : t <:+ cs) : beginsStaging (t ++ rest) = false := by
  by_contra hbegins
  have hnone := hcs t ht
  rw [Coverage.beginsStaging_append hrest (Bool.not_eq_false _ ▸ hbegins)] at hnone
  cases hnone

theorem beginsStaging_append_of_no_letter {cs t : List Char}
    (h : cs.any (Text.sameLetter 'I') = false) (hne : t ≠ []) (ht : t <:+ cs)
    (rest : List Char) : beginsStaging (t ++ rest) = false := by
  obtain ⟨c, t, rfl⟩ := List.exists_cons_of_ne_nil hne
  have hc := List.any_eq_false.mp h c (ht.subset List.mem_cons_self)
  exact beginsStaging_eq_false (Bool.eq_false_iff.mpr hc) _

theorem silent_append {cs rest : List Char} (hcs : Silent cs) (hrest : Silent rest)
    (hguarded : Guarded rest) : Silent (cs ++ rest) := by
  intro t ht
  rcases suffix_append_cases ht with h | ⟨front, h, rfl⟩
  · exact hrest t h
  · exact hcs.beginsStaging_append hguarded h

/-- A text without a letter I before a text without heads makes none. -/
theorem silent_append_of_no_letter {cs rest : List Char}
    (h : cs.any (Text.sameLetter 'I') = false) (hrest : Silent rest) : Silent (cs ++ rest) := by
  intro t ht
  rcases suffix_append_cases ht with h' | ⟨front, h', rfl⟩
  · exact hrest t h'
  · by_cases hne : front = []
    · rw [hne]
      exact hrest rest (List.suffix_refl _)
    · exact beginsStaging_append_of_no_letter h hne h' rest

theorem silent_cons {c : Char} {cs : List Char} :
    Silent (c :: cs) ↔ beginsStaging (c :: cs) = false ∧ Silent cs := by
  constructor
  · intro h
    exact ⟨h _ (List.suffix_refl _), fun t ht => h t (ht.trans (List.suffix_cons c cs))⟩
  · rintro ⟨hc, hcs⟩ t ht
    rcases List.suffix_cons_iff.mp ht with rfl | ht
    · exact hc
    · exact hcs t ht

/-- What stands without quotes at the start of a doubled text stands at the start of the text. -/
theorem exists_append_of_doubled {head rest : List Char} (hquote : '\x27' ∉ head) :
    ∀ {cs : List Char}, doubled cs = head ++ rest → ∃ rest', cs = head ++ rest' := by
  induction head with
  | nil => exact fun {cs} _ => ⟨cs, rfl⟩
  | cons c head ih =>
    rw [List.mem_cons, not_or] at hquote
    intro cs h
    cases cs with
    | nil => cases h
    | cons d cs =>
      by_cases hd : d = '\x27'
      · rw [hd, doubled_quote] at h
        exact absurd (List.cons.inj h).1 hquote.1
      · rw [doubled_cons hd] at h
        obtain ⟨rfl, htail⟩ := List.cons.inj h
        obtain ⟨rest', rfl⟩ := ih hquote.2 htail
        exact ⟨rest', rfl⟩

/-- Doubling quotes makes no heads. -/
theorem silent_doubled {cs : List Char} (h : Silent cs) : Silent (doubled cs) := by
  induction cs with
  | nil => exact h
  | cons c cs ih =>
    obtain ⟨hc, hcs⟩ := silent_cons.mp h
    by_cases hquote : c = '\x27'
    · rw [hquote, doubled_quote]
      have hfirst : Text.sameLetter 'I' '\x27' = false := by decide
      exact silent_cons.mpr ⟨beginsStaging_eq_false hfirst _,
        silent_cons.mpr ⟨beginsStaging_eq_false hfirst _, ih hcs⟩⟩
    · rw [doubled_cons hquote]
      refine silent_cons.mpr ⟨?_, ih hcs⟩
      by_contra hbegins
      rw [Bool.not_eq_false, beginsStaging_iff] at hbegins
      obtain ⟨head, rest, heq, hhead⟩ := hbegins
      -- A head has no quotes, so it stands in the text as it does in the doubled one.
      have hno : '\x27' ∉ head := fun hmem => by
        have := hhead.isStagingChar _ hmem
        revert this
        decide
      rw [← doubled_cons hquote] at heq
      obtain ⟨rest', hrest'⟩ := exists_append_of_doubled hno heq
      rw [beginsStaging_iff.mpr ⟨head, rest', hrest', hhead⟩] at hc
      cases hc

theorem silent_nil : Silent [] := by
  intro t ht
  rw [List.suffix_nil.mp ht]
  decide

theorem silent_of_no_letter {cs : List Char} (h : cs.any (Text.sameLetter 'I') = false) :
    Silent cs := by
  simpa using silent_append_of_no_letter h silent_nil

theorem silent_literal {s : String} (h : Silent s.toList) : Silent (literal s).toList := by
  have hquote : isStagingChar '\x27' = false := by decide
  have hfirst : Text.sameLetter 'I' '\x27' = false := by decide
  have hend : Silent ['\x27'] := silent_cons.mpr ⟨beginsStaging_eq_false hfirst _, silent_nil⟩
  rw [toList_literal]
  exact silent_cons.mpr ⟨beginsStaging_eq_false hfirst _,
    silent_append (silent_doubled h) hend (guarded_cons hquote [])⟩

theorem silent_intercalate {values : List (List Char)} (h : ∀ v ∈ values, Silent v) :
    Silent ([',', ' '].intercalate values) := by
  have hcomma : isStagingChar ',' = false := by decide
  have hno : [',', ' '].any (Text.sameLetter 'I') = false := by decide
  induction values with
  | nil => exact silent_nil
  | cons v values ih =>
    obtain ⟨hv, hvalues⟩ := List.forall_mem_cons.mp h
    cases values with
    | nil => rwa [List.intercalate_singleton]
    | cons w values =>
      rw [List.intercalate_cons_cons, List.append_assoc]
      exact silent_append hv (silent_append_of_no_letter hno (ih hvalues)) (guarded_cons hcomma _)

end Formwork.Coverage
