import Formwork.Proofs.Form.Document
import Formwork.Proofs.Text.Word

/-!
# Texts of words

A text may be read as words with something behind each. What a matcher reads as a word with a blank
before it is one of these words as a whole, so that a search for a word passes over all others.
-/
namespace Formwork.Text.Match

open Form (Run)

variable {α : Type}

/-- A character that belongs to no word. -/
def isOuterChar (c : Char) : Bool :=
  !isWordChar c

/-- A word with what stands behind it. -/
structure Lexeme where
  word : Run isWordChar
  sep : Run isOuterChar

def Lexeme.text (l : Lexeme) : List Char :=
  l.word.list ++ l.sep.list

/-- The text of words one after the other. -/
def spread (ls : List Lexeme) : List Char :=
  ls.flatMap Lexeme.text

theorem spread_cons (l : Lexeme) (ls : List Lexeme) :
    spread (l :: ls) = l.word.list ++ (l.sep.list ++ spread ls) := by
  rw [spread, List.flatMap_cons, Lexeme.text, List.append_assoc]
  rfl

theorem spread_append (ls ms : List Lexeme) : spread (ls ++ ms) = spread ls ++ spread ms :=
  List.flatMap_append

theorem Lexeme.isWordChar_sep (l : Lexeme) : ∀ c ∈ l.sep.list, isWordChar c = false := by
  intro c hc
  simpa [isOuterChar] using l.sep.all c hc

theorem startsWord_spread_cons (l : Lexeme) (ls : List Lexeme) (rest : List Char) :
    StartsWord (spread (l :: ls) ++ rest) := by
  rw [spread_cons, List.append_assoc]
  exact startsWord_append l.word.ne_nil l.word.all _

theorem StartsWord.spread_append {rest : List Char} (h : StartsWord rest) (ls : List Lexeme) :
    StartsWord (spread ls ++ rest) := by
  cases ls with
  | nil => exact h
  | cons l ls => exact startsWord_spread_cons l ls rest

theorem startsWord_spread {rest : List Char} (hrest : rest = [] ∨ StartsWord rest)
    (ls : List Lexeme) : spread ls ++ rest = [] ∨ StartsWord (spread ls ++ rest) := by
  cases ls with
  | nil => exact hrest
  | cons l ls => exact Or.inr (startsWord_spread_cons l ls rest)

/-! ## Places in a text -/

/-- A place in the text of words: in a word or behind it. -/
inductive Place (ls : List Lexeme) (front t : List Char) : Prop
  | inWord (pre : List Lexeme) (l : Lexeme) (post : List Lexeme) (left right : List Char)
      (split : ls = pre ++ l :: post) (word : l.word.list = left ++ right) (ne_nil : right ≠ [])
      (before : front = spread pre ++ left) (behind : t = right ++ (l.sep.list ++ spread post))
  | inSep (pre : List Lexeme) (l : Lexeme) (post : List Lexeme) (left right : List Char)
      (split : ls = pre ++ l :: post) (sep : l.sep.list = left ++ right) (ne_nil : right ≠ [])
      (before : front = spread pre ++ (l.word.list ++ left)) (behind : t = right ++ spread post)

theorem Place.cons {l : Lexeme} {ls : List Lexeme} {front t : List Char} (h : Place ls front t) :
    Place (l :: ls) (l.text ++ front) t := by
  have hspread (pre : List Lexeme) (left : List Char) :
      l.text ++ (spread pre ++ left) = spread (l :: pre) ++ left := by
    rw [← List.append_assoc]
    rfl
  cases h with
  | inWord pre l' post left right split word ne_nil before behind =>
    exact .inWord (l :: pre) l' post left right (congrArg (l :: ·) split) word ne_nil
      (by rw [before, hspread]) behind
  | inSep pre l' post left right split sep ne_nil before behind =>
    exact .inSep (l :: pre) l' post left right (congrArg (l :: ·) split) sep ne_nil
      (by rw [before, hspread]) behind

theorem place_of_split {ls : List Lexeme} {front t : List Char} (h : spread ls = front ++ t)
    (hne : t ≠ []) : Place ls front t := by
  induction ls generalizing front with
  | nil => exact absurd (List.append_eq_nil_iff.mp h.symm).2 hne
  | cons l ls ih =>
    have hlater (more : List Char) (hfront : front = l.text ++ more)
        (hmore : spread ls = more ++ t) : Place (l :: ls) front t :=
      hfront ▸ (ih hmore).cons
    have hsep (left : List Char) {right : List Char} (hright : right ≠ [])
        (hfront : front = l.word.list ++ left) (hsplit : l.sep.list = left ++ right)
        (ht : t = right ++ spread ls) :
        Place (l :: ls) front t :=
      .inSep [] l ls left right rfl hsplit hright hfront ht
    rw [spread_cons] at h
    rcases List.append_eq_append_iff.mp h with ⟨left, hfront, hbehind⟩ | ⟨right, hword, hbehind⟩
    · rcases List.append_eq_append_iff.mp hbehind with ⟨more, rfl, hmore⟩ | ⟨right, hsplit, rfl⟩
      · exact hlater more (by rw [hfront, Lexeme.text, List.append_assoc]) hmore
      · by_cases hright : right = []
        · rw [hright, List.append_nil] at hsplit
          refine hlater [] ?_ (by rw [hright]; rfl)
          rw [hfront, Lexeme.text, hsplit, List.append_nil]
        · exact hsep left hright hfront hsplit rfl
    · by_cases hright : right = []
      · rw [hright, List.append_nil] at hword
        refine hsep [] l.sep.ne_nil (by rw [hword, List.append_nil]) rfl ?_
        rw [hbehind, hright]
        rfl
      · exact .inWord [] l ls front right rfl hword hright rfl hbehind

/-! ## Searching for a word -/

theorem Lexeme.head_sep (l : Lexeme) (rest : List Char) :
    ∀ c ∈ (l.sep.list ++ rest).head?, Text.isWordChar c = false := by
  obtain ⟨d, sep, hsep⟩ := List.exists_cons_of_ne_nil l.sep.ne_nil
  intro c hc
  rw [hsep, List.cons_append, List.head?_cons, Option.mem_some_iff] at hc
  exact l.isWordChar_sep c (by simp [hsep, hc])

section Search

variable {key : List Char} {k : Rest α} {ls : List Lexeme} {t rest : List Char}

/-- A word is read where it is the first word. -/
theorem letters_spread_isSome (hkey : key.all isKeyChar = true) (hk : StopsWord k) (l : Lexeme)
    (rest : List Char) : (letters key k (l.word.list ++ (l.sep.list ++ rest))).isSome = true ↔
      Spells key l.word.list ∧ (k (l.sep.list ++ rest)).isSome = true :=
  letters_isSome_of_stops hkey hk l.word.all (l.head_sep rest)

/-- What is read behind blanks as a word is one of the words of a text, or stands behind it. -/
theorem exists_of_blanks1_letters (hkey : key.all isKeyChar = true) (hne : key ≠ [])
    (hrest : rest = [] ∨ StartsWord rest) (ht : t <:+ spread ls) (htne : t ≠ [])
    (h : (blanks1 (letters key k) (t ++ rest)).isSome = true) :
    ∃ post, post <:+ ls ∧ (letters key k (spread post ++ rest)).isSome = true := by
  obtain ⟨front, hfront⟩ := ht
  cases place_of_split hfront.symm htne with
  | inWord pre l post left right split word ne_nil before behind =>
    obtain ⟨c, right, rfl⟩ := List.exists_cons_of_ne_nil ne_nil
    have hstop := stopsWord_blanks1 (letters key k) c
      (right ++ (l.sep.list ++ spread post) ++ rest) (l.word.all c (by simp [word]))
    rw [behind, List.cons_append, List.cons_append, hstop] at h
    cases h
  | inSep pre l post left right split sep ne_nil before behind =>
    rw [behind, List.append_assoc] at h
    obtain ⟨-, -, hread⟩ := (blanks1_isSome (readsWord_letters hne hkey k)
      (fun c hc => l.isWordChar_sep c (by simp [sep, hc])) (startsWord_spread hrest _)).mp h
    exact ⟨post, ⟨pre ++ [l], by rw [split, List.append_assoc]; rfl⟩, hread⟩

/-- A search for a word passes over words that do not spell it. -/
theorem blanks1_letters_eq_none (hkey : key.all isKeyChar = true) (hne : key ≠ [])
    (hk : StopsWord k) (hrest : rest = [] ∨ StartsWord rest)
    (hwords : ∀ l ∈ ls, ¬ Spells key l.word.list) (hread : letters key k rest = none)
    (ht : t <:+ spread ls) (htne : t ≠ []) : blanks1 (letters key k) (t ++ rest) = none := by
  by_contra h
  obtain ⟨post, hpost, h⟩ := exists_of_blanks1_letters hkey hne hrest ht htne
    (Option.isSome_iff_ne_none.mpr h)
  cases post with
  | nil =>
    rw [spread, List.flatMap_nil, List.nil_append, hread] at h
    cases h
  | cons l post =>
    rw [spread_cons, List.append_assoc, List.append_assoc] at h
    exact hwords l (hpost.subset List.mem_cons_self) ((letters_spread_isSome hkey hk l _).mp h).1

end Search

/-- A word is read behind the edge of a word only if it begins with that word. -/
theorem wordEdge_letters_isSome {key left right rest : List Char} {k : Rest α}
    {before : Option Char} (hkey : key.all isKeyChar = true) (hk : StopsWord k) (hne : right ≠ [])
    (hword : ∀ c ∈ left ++ right, isWordChar c = true)
    (hrest : ∀ c ∈ rest.head?, isWordChar c = false)
    (h : (wordEdge (left.getLast?.or before) (letters key k) (right ++ rest)).isSome = true) :
    left = [] ∧ Spells key right ∧ (k rest).isSome = true := by
  obtain ⟨hleft, hright⟩ := List.forall_mem_append.mp hword
  rw [wordEdge] at h
  split at h
  · next hedge =>
    refine ⟨?_, (letters_isSome_of_stops hkey hk hright hrest).mp h⟩
    by_contra hnil
    obtain ⟨d, hd⟩ := Option.isSome_iff_exists.mp (List.getLast?_isSome.mpr hnil)
    obtain ⟨c, right, rfl⟩ := List.exists_cons_of_ne_nil hne
    rw [hd, isWordEdge, Option.some_or, List.cons_append, List.head?_cons, Option.any_some,
      Option.any_some, hleft d (List.mem_of_getLast? hd), hright c List.mem_cons_self] at hedge
    cases hedge
  · cases h

/-- A search for a word behind an edge passes over the words that do not spell it. -/
theorem wordEdge_letters_eq_none {key front t : List Char} {k : Rest α} {ls : List Lexeme}
    (hkey : key.all isKeyChar = true) (hne : key ≠ []) (hk : StopsWord k)
    (hwords : ∀ l ∈ ls, ¬ Spells key l.word.list) (hsplit : spread ls = front ++ t) (htne : t ≠ [])
    (before : Option Char) (rest : List Char) :
    wordEdge (front.getLast?.or before) (letters key k) (t ++ rest) = none := by
  by_contra hread
  have hread := Option.isSome_iff_ne_none.mpr hread
  cases place_of_split hsplit htne with
  | inWord pre l post left right split word ne_nil before' behind =>
    rw [behind, before', List.append_assoc, List.append_assoc, List.getLast?_append,
      Option.or_assoc] at hread
    obtain ⟨rfl, hspells, -⟩ := wordEdge_letters_isSome hkey hk ne_nil
      (fun c hc => l.word.all c (by rw [word]; exact hc)) (l.head_sep _) hread
    exact hwords l (by simp [split]) (by rw [word]; exact hspells)
  | inSep pre l post left right split sep ne_nil before' behind =>
    have hnone := ((readsWord_letters hne hkey k).wordEdge (front.getLast?.or before)).eq_none
      l.isWordChar_sep ne_nil ⟨left, sep.symm⟩ (spread post ++ rest)
    rw [behind, List.append_assoc, hnone] at hread
    cases hread

/-- The text behind the last word is not blank. -/
def Closed (ls : List Lexeme) : Prop :=
  ∃ last ∈ ls.getLast?, ∃ c ∈ last.sep.list, isBlank c = false

theorem Closed.of_append {pre : List Lexeme} {l : Lexeme} {post : List Lexeme}
    (h : Closed (pre ++ l :: post)) : Closed (l :: post) := by
  obtain ⟨last, hlast, hsign⟩ := h
  rw [List.getLast?_append_cons] at hlast
  exact ⟨last, hlast, hsign⟩

/-- Blanks lead from a word to another word of the same closed text. -/
theorem Closed.next {l : Lexeme} {ls : List Lexeme} {rest : List Char} {k : Rest α}
    (h : Closed (l :: ls)) (hk : ReadsWord k) (hrest : rest = [] ∨ StartsWord rest)
    (hread : (blanks1 k (l.sep.list ++ (spread ls ++ rest))).isSome = true) :
    ∃ l' ls', ls = l' :: ls' ∧ Closed ls ∧
      (k (l'.word.list ++ (l'.sep.list ++ (spread ls' ++ rest)))).isSome = true := by
  obtain ⟨-, hblank, hread⟩ :=
    (blanks1_isSome hk l.isWordChar_sep (startsWord_spread hrest _)).mp hread
  obtain ⟨last, hlast, c, hc, hnot⟩ := h
  cases ls with
  | nil =>
    obtain rfl : l = last := by simpa using hlast
    rw [hblank c hc] at hnot
    cases hnot
  | cons l' ls' =>
    rw [List.getLast?_cons_cons] at hlast
    rw [spread_cons, List.append_assoc, List.append_assoc] at hread
    exact ⟨l', ls', rfl, ⟨last, hlast, c, hc, hnot⟩, hread⟩

end Formwork.Text.Match
