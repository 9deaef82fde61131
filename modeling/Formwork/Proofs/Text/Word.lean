import Formwork.Proofs.Text.Blank
import Formwork.Proofs.Text.Match

/-!
# Words and what stands between them

A word is a run of letters, digits and low lines. What reads a word in any case of letters, with
blanks after it, reads a word of the text as a whole: it does not begin inside a blank or a sign,
and it does not end before the word does. So a text can be matched word by word.
-/
namespace Formwork.Text

/-! ## Characters of words -/

/-- The code points of blanks from U+0080 on. -/
def wideBlanks : List Nat :=
  [0x85, 0xa0, 0x1680] ++ List.range' 0x2000 11 ++ [0x2028, 0x2029, 0x202f, 0x205f, 0x3000]

/-- A wide character outside the ranges of letters and digits belongs to no word. -/
theorem isWordChar_of_apart {c : Char} (hwide : 0x80 ≤ c.toNat)
    (h : alphanumericRanges.toList.all (fun r => c.toNat.blt r.1 || r.2.blt c.toNat) = true) :
    isWordChar c = false := by
  have hval : ¬ c.val < 0x80 := Nat.not_lt.mpr hwide
  have hlow : (c == '_') = false := by
    rw [beq_eq_false_iff_ne]
    rintro rfl
    exact absurd hwide (by decide)
  rw [isWordChar, hlow, Bool.false_or, isAlphanumeric, if_neg hval, inRanges, Array.any_eq_false']
  intro r hr
  have hapart := List.all_eq_true.mp h r (Array.mem_toList_iff.mpr hr)
  simp only [Bool.or_eq_true, Nat.blt_eq] at hapart
  simp only [Bool.and_eq_true, decide_eq_true_eq]
  omega

theorem isWordChar_of_isBlank {c : Char} (h : isBlank c = true) : isWordChar c = false := by
  have hascii : ∀ n ∈ List.range' 9 5 ++ List.range' 28 5,
      isWordChar (Char.ofNat n) = false := by
    decide
  have hwide : ∀ n ∈ wideBlanks, alphanumericRanges.toList.all
      (fun r => n.blt r.1 || r.2.blt n) = true := by
    decide +kernel
  simp only [isBlank, Bool.or_eq_true, Bool.and_eq_true, decide_eq_true_eq, beq_iff_eq] at h
  by_cases hsmall : c.toNat < 0x80
  · rw [← Char.ofNat_toNat c]
    refine hascii _ ?_
    simp only [List.mem_append, List.mem_range'_1]
    omega
  · have hmem : c.toNat ∈ wideBlanks := by
      simp only [wideBlanks, List.mem_append, List.mem_range'_1, List.mem_cons, List.not_mem_nil,
        or_false]
      omega
    exact isWordChar_of_apart (Nat.not_lt.mp hsmall) (hwide _ hmem)

theorem isBlank_of_isWordChar {c : Char} (h : isWordChar c = true) : isBlank c = false := by
  by_contra hblank
  rw [isWordChar_of_isBlank (Bool.not_eq_false _ ▸ hblank)] at h
  cases h

theorem toNat_toLower (c : Char) :
    c.toLower.toNat = if 65 ≤ c.toNat ∧ c.toNat ≤ 90 then c.toNat + 32 else c.toNat := by
  unfold Char.toLower
  by_cases h : c.val ≥ 'A'.val ∧ c.val ≤ 'Z'.val
  · have hfirst : 65 ≤ c.toNat := h.1
    have hlast : c.toNat ≤ 90 := h.2
    have hshift : ('a'.val - 'A'.val).toNat = 32 := rfl
    rw [dif_pos h, if_pos ⟨hfirst, hlast⟩]
    show (c.val + ('a'.val - 'A'.val)).toNat = c.toNat + 32
    rw [UInt32.toNat_add, hshift, Char.toNat_val]
    omega
  · rw [dif_neg h]
    exact (if_neg h).symm

/-- A letter or the low line. -/
def isKeyChar (c : Char) : Bool :=
  c.isAlpha || c == '_'

theorem isWordChar_of_ranges {c : Char} (hwide : 0x80 ≤ c.toNat)
    (h : alphanumericRanges.toList.any (fun r => r.1.ble c.toNat && c.toNat.ble r.2) = true) :
    isWordChar c = true := by
  have hval : ¬ c.val < 0x80 := Nat.not_lt.mpr hwide
  obtain ⟨r, hr, hin⟩ := List.any_eq_true.mp h
  rw [isWordChar, isAlphanumeric, if_neg hval, inRanges, Bool.or_eq_true]
  refine Or.inr (Array.any_eq_true'.mpr ⟨r, Array.mem_toList_iff.mp hr, ?_⟩)
  simpa only [Bool.and_eq_true, decide_eq_true_eq, Nat.ble_eq] using hin

/-- What is the same letter as a letter is a character of words. -/
theorem isWordChar_of_sameLetter {w c : Char} (hw : isKeyChar w = true)
    (h : sameLetter w c = true) : isWordChar c = true := by
  have hascii : ∀ n ∈ List.range' 65 26 ++ List.range' 97 26 ++ [95],
      isWordChar (Char.ofNat n) = true := by
    decide
  have hother : ∀ n ∈ [0x130, 0x131, 0x212a, 0x17f], 0x80 ≤ n ∧
      alphanumericRanges.toList.any (fun r => r.1.ble n && n.ble r.2) = true := by
    decide +kernel
  have hwide (hn : c.toNat ∈ [0x130, 0x131, 0x212a, 0x17f]) : isWordChar c = true :=
    isWordChar_of_ranges (hother _ hn).1 (hother _ hn).2
  simp only [sameLetter, Bool.or_eq_true, Bool.and_eq_true, beq_iff_eq] at h
  rcases h with ((h | ⟨-, h | h⟩) | ⟨-, h⟩) | ⟨-, h⟩
  · have hcode : c.toLower.toNat = w.toLower.toNat := congrArg Char.toNat h
    have hletter : (65 ≤ w.toNat ∧ w.toNat ≤ 90) ∨ (97 ≤ w.toNat ∧ w.toNat ≤ 122) ∨
        w.toNat = 95 := by
      unfold isKeyChar Char.isAlpha Char.isUpper Char.isLower at hw
      simp only [Bool.or_eq_true, Bool.and_eq_true, decide_eq_true_eq, beq_iff_eq] at hw
      rcases hw with (hw | hw) | rfl
      · exact Or.inl hw
      · exact Or.inr (Or.inl hw)
      · exact Or.inr (Or.inr rfl)
    rw [toNat_toLower, toNat_toLower] at hcode
    rw [← Char.ofNat_toNat c]
    refine hascii _ ?_
    simp only [List.mem_append, List.mem_range'_1, List.mem_singleton]
    split at hcode <;> split at hcode <;> omega
  · exact hwide (by simp [h])
  · exact hwide (by simp [h])
  · exact hwide (by simp [h])
  · exact hwide (by simp [h])

/-- The small letter that a character is the same letter as. -/
def smallLetter (c : Char) : Char :=
  if c.toNat = 0x130 ∨ c.toNat = 0x131 then 'i'
  else if c.toNat = 0x212a then 'k'
  else if c.toNat = 0x17f then 's'
  else c.toLower

theorem toLower_of_sameLetter {w c : Char} (hw : w.toLower.toNat < 0x80)
    (h : sameLetter w c = true) : w.toLower = smallLetter c := by
  simp only [sameLetter, Bool.or_eq_true, Bool.and_eq_true, beq_iff_eq] at h
  unfold smallLetter
  rcases h with ((h | ⟨hi, hc⟩) | ⟨hk, hc⟩) | ⟨hs, hc⟩
  · have hcode := toNat_toLower c
    rw [h] at hcode
    split at hcode <;> rw [if_neg (by omega), if_neg (by omega), if_neg (by omega), h]
  · rw [if_pos hc, hi]
  · rw [if_neg (by omega), if_pos hc, hk]
  · rw [if_neg (by omega), if_neg (by omega), if_pos hc, hs]

/-- A text is divided in one way only by the first character that is not of a class. -/
theorem span_unique {p : Char → Bool} {cs ds rest after : List Char} {c d : Char}
    (hcs : ∀ a ∈ cs, p a = true) (hds : ∀ a ∈ ds, p a = true) (hc : p c = false)
    (hd : p d = false) (h : cs ++ c :: rest = ds ++ d :: after) :
    cs = ds ∧ c = d ∧ rest = after := by
  obtain ⟨hsame, hrest⟩ :=
    append_inj_of_head hcs hds (by simpa using hc) (by simpa using hd) h
  exact ⟨hsame, List.cons.inj hrest⟩

namespace Match

variable {α : Type}

/-! ## Reading words -/

/-- A text begins with a character of words. -/
def StartsWord (cs : List Char) : Prop :=
  ∃ c rest, cs = c :: rest ∧ isWordChar c = true

/-- What is read begins with a character of words. -/
def ReadsWord (k : Rest α) : Prop :=
  ∀ cs, (k cs).isSome = true → StartsWord cs

/-- Nothing is read where a word goes on. -/
def StopsWord (k : Rest α) : Prop :=
  ∀ c rest, isWordChar c = true → k (c :: rest) = none

theorem ReadsWord.cons_eq_none {k : Rest α} (hk : ReadsWord k) {c : Char}
    (hc : Text.isWordChar c = false) (cs : List Char) : k (c :: cs) = none := by
  by_contra hread
  obtain ⟨d, rest, hcons, hd⟩ := hk _ (Option.isSome_iff_ne_none.mpr hread)
  obtain ⟨rfl, -⟩ := List.cons.inj hcons
  rw [hc] at hd
  cases hd

/-- What reads a word reads nothing from a place between words. -/
theorem ReadsWord.eq_none {k : Rest α} (hk : ReadsWord k) {run t : List Char}
    (hrun : ∀ c ∈ run, Text.isWordChar c = false) (hne : t ≠ []) (ht : t <:+ run)
    (rest : List Char) : k (t ++ rest) = none := by
  obtain ⟨c, t, rfl⟩ := List.exists_cons_of_ne_nil hne
  exact hk.cons_eq_none (hrun c (ht.subset List.mem_cons_self)) _

theorem ReadsWord.wordEdge {k : Rest α} (hk : ReadsWord k) (before : Option Char) :
    ReadsWord (Match.wordEdge before k) := by
  intro cs h
  rw [Match.wordEdge] at h
  split at h
  · exact hk cs h
  · cases h

theorem startsWord_append {word : List Char} (hne : word ≠ [])
    (h : ∀ c ∈ word, isWordChar c = true) (rest : List Char) : StartsWord (word ++ rest) := by
  obtain ⟨c, word, rfl⟩ := List.exists_cons_of_ne_nil hne
  exact ⟨c, word ++ rest, rfl, h c List.mem_cons_self⟩

theorem StartsWord.head_ne_blank {cs : List Char} (h : StartsWord cs) :
    ∀ c ∈ cs.head?, isBlank c = false := by
  obtain ⟨c, rest, rfl, hc⟩ := h
  intro d hd
  rw [List.head?_cons, Option.mem_some_iff] at hd
  exact hd ▸ isBlank_of_isWordChar hc

theorem Spells.isWordChar {word cs : List Char} (hword : word.all isKeyChar = true)
    (h : Spells word cs) : ∀ c ∈ cs, isWordChar c = true := by
  induction h with
  | nil => simp
  | cons hc _ ih =>
    rw [List.all_cons, Bool.and_eq_true] at hword
    exact List.forall_mem_cons.mpr ⟨isWordChar_of_sameLetter hword.1 hc, ih hword.2⟩

theorem readsWord_letters {word : List Char} (hne : word ≠ []) (hword : word.all isKeyChar = true)
    (k : Rest α) : ReadsWord (letters word k) := by
  intro cs h
  obtain ⟨run, rest, rfl, hrun, -⟩ := letters_isSome.mp h
  refine startsWord_append (fun hnil => hne ?_) (hrun.isWordChar hword) rest
  exact List.length_eq_zero_iff.mp (by rw [hrun.length_eq, hnil, List.length_nil])

theorem readsWord_many1 (k : List Char → Rest α) : ReadsWord (many1 Text.isWordChar k) := by
  intro cs h
  obtain ⟨run, rest, rfl, hne, hrun, -⟩ := many1_isSome.mp h
  exact startsWord_append hne hrun rest

theorem stopsWord_blanks1 (k : Rest α) : StopsWord (blanks1 k) := by
  intro c rest hc
  rw [blanks1, many1, if_neg (by simp [isBlank_of_isWordChar hc])]

/-- A run of blanks ends where a word begins. -/
theorem blanks1_isSome {k : Rest α} (hk : ReadsWord k) {sep rest : List Char}
    (hsep : ∀ c ∈ sep, isWordChar c = false) (hrest : rest = [] ∨ StartsWord rest) :
    (blanks1 k (sep ++ rest)).isSome = true ↔
      sep ≠ [] ∧ (∀ c ∈ sep, isBlank c = true) ∧ (k rest).isSome = true := by
  constructor
  · intro h
    obtain ⟨run, after, hsplit, hne, hrun, hafter⟩ := many1_isSome.mp h
    have heq : sep = run := by
      obtain ⟨c, after, rfl, hc⟩ := hk after hafter
      rcases List.append_eq_append_iff.mp hsplit with ⟨left, rfl, hleft⟩ | ⟨left, rfl, hleft⟩
      · -- The blanks would reach into the word.
        cases left with
        | nil => exact (List.append_nil sep).symm
        | cons d left =>
          rcases hrest with rfl | ⟨e, rest, rfl, he⟩
          · cases hleft
          · obtain ⟨rfl, -⟩ := List.cons.inj hleft
            rw [isWordChar_of_isBlank (hrun e (by simp))] at he
            cases he
      · -- The word would begin in what separates it.
        cases left with
        | nil => exact List.append_nil run
        | cons d left =>
          obtain ⟨rfl, -⟩ := List.cons.inj hleft
          rw [hsep c (by simp)] at hc
          cases hc
    subst heq
    rw [List.append_cancel_left hsplit]
    exact ⟨hne, hrun, hafter⟩
  · rintro ⟨hne, hblank, hk⟩
    exact many1_isSome.mpr ⟨sep, rest, rfl, hne, hblank, hk⟩

/-- A word is read as a whole. -/
theorem letters_isSome_of_stops {word : List Char} (hword : word.all isKeyChar = true)
    {k : Rest α} (hk : StopsWord k) {run rest : List Char}
    (hrun : ∀ c ∈ run, isWordChar c = true) (hrest : ∀ c ∈ rest.head?, isWordChar c = false) :
    (letters word k (run ++ rest)).isSome = true ↔ Spells word run ∧ (k rest).isSome = true := by
  constructor
  · intro h
    obtain ⟨read, after, hsplit, hread, hafter⟩ := letters_isSome.mp h
    have heq : run = read := by
      rcases List.append_eq_append_iff.mp hsplit with ⟨left, rfl, hleft⟩ | ⟨left, rfl, hleft⟩
      · cases left with
        | nil => exact (List.append_nil run).symm
        | cons d left =>
          have hd := hread.isWordChar hword d (by simp)
          rw [hrest d (by rw [hleft]; rfl)] at hd
          cases hd
      · cases left with
        | nil => exact List.append_nil read
        | cons d left =>
          rw [hleft, List.cons_append, hk d _ (hrun d (by simp))] at hafter
          cases hafter
    subst heq
    rw [List.append_cancel_left hsplit]
    exact ⟨hread, hafter⟩
  · rintro ⟨hread, hafter⟩
    exact letters_isSome.mpr ⟨run, rest, rfl, hread, hafter⟩

/-- A run of characters of words is read as a whole. -/
theorem many1_of_stops {k : List Char → Rest α} (hk : ∀ run, StopsWord (k run))
    {run rest : List Char} (hne : run ≠ []) (hrun : ∀ c ∈ run, isWordChar c = true)
    (hrest : ∀ c ∈ rest.head?, isWordChar c = false) :
    many1 Text.isWordChar k (run ++ rest) = k run rest := by
  obtain ⟨c, run, rfl⟩ := List.exists_cons_of_ne_nil hne
  obtain ⟨hc, hrun⟩ := List.forall_mem_cons.mp hrun
  rw [List.cons_append, many1, if_pos hc, many_of_stuck fun run' => hk (c :: run')]
  rw [List.takeWhile_append_of_pos hrun, List.dropWhile_append_of_pos hrun]
  have hstop : rest.takeWhile Text.isWordChar = [] ∧ rest.dropWhile Text.isWordChar = rest := by
    cases rest with
    | nil => exact ⟨rfl, rfl⟩
    | cons d rest => simp [hrest d rfl]
  rw [hstop.1, hstop.2, List.append_nil]

end Match

end Formwork.Text
