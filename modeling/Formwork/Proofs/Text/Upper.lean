import Mathlib.Data.List.Basic
import Formwork.Text.Case

/-!
# Upper case

A text in upper case stays as it is when it is put in upper case again. The tables of letters are
closed: what a small letter becomes stands in no table as a small letter. For most runs this is seen
from their ends and steps alone, without looking at their letters one by one.
-/
namespace Formwork.Text

/-! ## Letters of ASCII -/

theorem isLower_toUpper (c : Char) : c.toUpper.isLower = false := by
  unfold Char.isLower Char.toUpper
  split <;> grind [UInt32.toNat_add, Char.toNat_val]

theorem toUpper_of_not_isLower {c : Char} (h : c.isLower = false) : c.toUpper = c := by
  have hnot : ¬ ('a'.val ≤ c.val ∧ c.val ≤ 'z'.val) := by
    unfold Char.isLower at h
    simpa using h
  unfold Char.toUpper
  rw [dif_neg hnot]

/-! ## The tables -/

/-- Whether a run holds a code point. -/
def CaseRun.holds (r : CaseRun) (n : Nat) : Bool :=
  r.first.ble n && n.ble r.last && ((n - r.first) % r.step).beq 0

/-- The image of a code point that a run holds. -/
def CaseRun.image (r : CaseRun) (n : Nat) : Nat :=
  ((n : Int) + r.shift).toNat

/-- Whether a code point has no image but itself. -/
def isSettled (n : Nat) : Bool :=
  if n.blt 0x80 then !(Char.ofNat n).isLower
  else upperExpansions.toList.all (fun e => !e.1.beq n) &&
    upperRuns.toList.all (fun r => !r.holds n)

/-- Whether a run holds none of the images of another: it begins after them or ends before them, or
it steps over them. -/
def CaseRun.apart (r r' : CaseRun) : Bool :=
  (r.image r.last).blt r'.first || r'.last.blt (r.image r.first) ||
    ((r.step % r'.step).beq 0 && !(r.image r.first % r'.step).beq (r'.first % r'.step))

/-- Whether all the images of a run are settled. -/
def CaseRun.isClosed (r : CaseRun) : Bool :=
  (r.first.beq r.last && isSettled (r.image r.first)) ||
    (0x80 ≤ r.first + r.shift && upperRuns.toList.all r.apart &&
      upperExpansions.toList.all (fun e => (r.image r.last).blt e.1 || e.1.blt (r.image r.first)))

theorem runs_closed : upperRuns.toList.all CaseRun.isClosed = true := by decide +kernel

theorem expansions_closed :
    upperExpansions.toList.all (fun e => !e.2.isEmpty && e.2.all isSettled) = true := by
  decide +kernel

theorem CaseRun.holds_iff {r : CaseRun} {n : Nat} :
    r.holds n = true ↔ r.first ≤ n ∧ n ≤ r.last ∧ (n - r.first) % r.step = 0 := by
  simp only [holds, Bool.and_eq_true, Nat.ble_eq, Nat.beq_eq, and_assoc]

theorem CaseRun.image?_eq (n : Nat) :
    image? upperRuns n = (upperRuns.find? (·.holds n)).map (fun r => r.image n) := by
  have hholds : (fun r : CaseRun => r.first ≤ n && n ≤ r.last && (n - r.first) % r.step == 0) =
      fun r => r.holds n := by
    funext r
    rw [Bool.eq_iff_iff, holds_iff]
    simp only [Bool.and_eq_true, decide_eq_true_eq, beq_iff_eq, and_assoc]
  rw [image?, hholds]
  rfl

/-- A code point that is settled stands in no table. -/
theorem isSettled_iff {n : Nat} (hascii : 0x80 ≤ n) :
    isSettled n = true ↔ (∀ e ∈ upperExpansions.toList, e.1 ≠ n) ∧
      ∀ r ∈ upperRuns.toList, r.holds n = false := by
  have hlow : ¬ n.blt 0x80 = true := by
    rw [Nat.blt_eq]
    omega
  rw [isSettled, if_neg hlow, Bool.and_eq_true, List.all_eq_true, List.all_eq_true]
  simp only [Bool.not_eq_true', ← Bool.not_eq_true, Nat.beq_eq, ne_eq]

theorem upperChar_of_isSettled {c : Char} (h : isSettled c.toNat = true) : upperChar c = [c] := by
  by_cases hascii : c.toNat < 0x80
  · have hval : c.val < 0x80 := hascii
    rw [isSettled, if_pos (Nat.blt_eq.mpr hascii), Char.ofNat_toNat, Bool.not_eq_true'] at h
    rw [upperChar, if_pos hval, toUpper_of_not_isLower h]
  · have hval : ¬ c.val < 0x80 := hascii
    obtain ⟨hexpansions, hruns⟩ := (isSettled_iff (Nat.le_of_not_lt hascii)).mp h
    have hnone : upperExpansions.find? (·.1 == c.toNat) = none := by
      refine Array.find?_eq_none.mpr fun e he => ?_
      simpa using hexpansions e (Array.mem_toList_iff.mpr he)
    have himage : upperRuns.find? (·.holds c.toNat) = none := by
      refine Array.find?_eq_none.mpr fun r hr => ?_
      simp [hruns r (Array.mem_toList_iff.mpr hr)]
    rw [upperChar, if_neg hval, hnone, CaseRun.image?_eq, himage]
    rfl

theorem isSettled_ofNat {n : Nat} (h : isSettled n = true) :
    isSettled (Char.ofNat n).toNat = true := by
  by_cases hvalid : n.isValidChar
  · rw [Char.ofNat, dif_pos hvalid]
    exact h
  · rw [Char.ofNat, dif_neg hvalid]
    decide

/-- The images of two code points of a run are as far apart as the code points. -/
theorem CaseRun.image_eq {r : CaseRun} (hpos : 0 ≤ r.first + r.shift) {n : Nat}
    (hn : r.first ≤ n) : r.image n = r.image r.first + (n - r.first) := by
  simp only [image]
  omega

theorem CaseRun.holds_image_of_apart {r r' : CaseRun} (hpos : 0 ≤ r.first + r.shift)
    (h : r.apart r' = true) {n : Nat} (hn : r.holds n = true) : r'.holds (r.image n) = false := by
  obtain ⟨hfirst, hlast, hstep⟩ := holds_iff.mp hn
  have himage := image_eq hpos hfirst
  have hend := image_eq hpos (Nat.le_trans hfirst hlast)
  by_contra hheld
  obtain ⟨hfirst', hlast', hstep'⟩ := holds_iff.mp (Bool.not_eq_false _ ▸ hheld)
  simp only [apart, Bool.or_eq_true, Bool.and_eq_true, Nat.blt_eq, Nat.beq_eq, Bool.not_eq_true',
    ← Bool.not_eq_true] at h
  rcases h with (hafter | hbefore) | ⟨hdvd, hne⟩
  · omega
  · omega
  · -- All images are congruent, and none is congruent to the code points of the other run.
    have hsteps : r'.step ∣ n - r.first :=
      Nat.dvd_trans (Nat.dvd_of_mod_eq_zero hdvd) (Nat.dvd_of_mod_eq_zero hstep)
    have hmod : r.image n % r'.step = r.image r.first % r'.step := by
      rw [himage, Nat.add_mod, Nat.mod_eq_zero_of_dvd hsteps, Nat.add_zero, Nat.mod_mod]
    have hmod' : r.image n % r'.step = r'.first % r'.step := by
      have hsplit : r.image n = r'.first + (r.image n - r'.first) := by omega
      rw [hsplit, Nat.add_mod, hstep', Nat.add_zero, Nat.mod_mod]
    exact hne (hmod.symm.trans hmod')

theorem CaseRun.isSettled_image {r : CaseRun} (hr : r ∈ upperRuns.toList) {n : Nat}
    (hn : r.holds n = true) : isSettled (r.image n) = true := by
  have hclosed := List.all_eq_true.mp runs_closed r hr
  simp only [isClosed, Bool.or_eq_true, Bool.and_eq_true, Nat.beq_eq, decide_eq_true_eq] at hclosed
  obtain ⟨hfirst, hlast, -⟩ := holds_iff.mp hn
  rcases hclosed with ⟨hone, hsettled⟩ | ⟨⟨hlow, hapart⟩, hexpansions⟩
  · have heq : n = r.first := by omega
    rw [heq]
    exact hsettled
  · have hpos : 0 ≤ r.first + r.shift := by omega
    have himage := image_eq hpos hfirst
    have hend := image_eq hpos (Nat.le_trans hfirst hlast)
    have hascii : 0x80 ≤ r.image n := by
      simp only [image]
      omega
    refine (isSettled_iff hascii).mpr ⟨?_, ?_⟩
    · intro e he
      have hout := List.all_eq_true.mp hexpansions e he
      simp only [Bool.or_eq_true, Nat.blt_eq] at hout
      omega
    · intro r' hr'
      exact holds_image_of_apart hpos (List.all_eq_true.mp hapart r' hr') hn

/-! ## Characters and texts -/

theorem isSettled_toUpper {c : Char} (hascii : c.val < 0x80) :
    isSettled c.toUpper.toNat = true := by
  have hlow : c.toUpper.toNat < 0x80 := by
    have hc : c.val.toNat < 0x80 := hascii
    rw [← Char.toNat_val]
    unfold Char.toUpper
    split
    · next hsmall =>
      have hfirst : 97 ≤ c.val.toNat := hsmall.1
      rw [UInt32.toNat_add]
      have hshift : ('A'.val - 'a'.val).toNat = 4294967264 := rfl
      omega
    · exact hc
  rw [isSettled, if_pos (Nat.blt_eq.mpr hlow), Char.ofNat_toNat, isLower_toUpper]
  rfl

/-- What a character becomes in upper case is settled, and it is not nothing. -/
theorem upperChar_spec (c : Char) :
    upperChar c ≠ [] ∧ ∀ d ∈ upperChar c, isSettled d.toNat = true := by
  rw [upperChar]
  split
  · next hval =>
    refine ⟨List.cons_ne_nil _ _, ?_⟩
    intro d hd
    obtain rfl := List.mem_singleton.mp hd
    exact isSettled_toUpper hval
  · next hval =>
    split
    · next n images hfind =>
      have hmem := Array.mem_toList_iff.mpr (Array.mem_of_find?_eq_some hfind)
      have hclosed := List.all_eq_true.mp expansions_closed _ hmem
      simp only [Bool.and_eq_true, Bool.not_eq_true', List.isEmpty_eq_false_iff,
        List.all_eq_true] at hclosed
      refine ⟨by simpa using hclosed.1, ?_⟩
      intro d hd
      obtain ⟨k, hk, rfl⟩ := List.mem_map.mp hd
      exact isSettled_ofNat (hclosed.2 k hk)
    · next hnone =>
      refine ⟨List.cons_ne_nil _ _, ?_⟩
      intro d hd
      rw [List.mem_singleton, CaseRun.image?_eq] at hd
      rcases hfind : upperRuns.find? (·.holds c.toNat) with _ | r
      · -- No table holds the character, so that it stays as it is.
        rw [hfind] at hd
        rw [Array.find?_eq_none] at hnone hfind
        rw [hd]
        refine (isSettled_iff (Nat.le_of_not_lt hval)).mpr ⟨?_, ?_⟩
        · intro e he
          simpa using hnone e (Array.mem_toList_iff.mp he)
        · intro r hr
          simpa using hfind r (Array.mem_toList_iff.mp hr)
      · rw [hfind] at hd
        have hmem := Array.mem_toList_iff.mpr (Array.mem_of_find?_eq_some hfind)
        have hheld := Array.find?_some hfind
        rw [hd]
        exact isSettled_ofNat (CaseRun.isSettled_image hmem hheld)

theorem flatMap_upperChar_upperChar (c : Char) :
    (upperChar c).flatMap upperChar = upperChar c := by
  have hsettled := (upperChar_spec c).2
  calc (upperChar c).flatMap upperChar
      = (upperChar c).flatMap (fun d => [d]) :=
        List.flatMap_congr fun d hd => upperChar_of_isSettled (hsettled d hd)
    _ = upperChar c := List.flatMap_singleton' _

/-- A text in upper case stays as it is. -/
theorem upper_upper (s : String) : upper (upper s) = upper s := by
  rw [upper, upper, String.toList_ofList, List.flatMap_assoc]
  simp only [flatMap_upperChar_upperChar]

example : upper "straße" = "STRASSE" := by decide +kernel

theorem upper_append (s t : String) : upper (s ++ t) = upper s ++ upper t := by
  rw [upper, String.toList_append, List.flatMap_append, String.ofList_append]
  rfl

/-- Only the empty text is empty in upper case. -/
theorem upper_eq_empty {s : String} : upper s = "" ↔ s = "" := by
  constructor
  · intro h
    have hnil : s.toList.flatMap upperChar = [] := by
      rw [upper] at h
      simpa using congrArg String.toList h
    rw [List.flatMap_eq_nil_iff] at hnil
    rw [← String.toList_eq_nil_iff, List.eq_nil_iff_forall_not_mem]
    exact fun c hc => (upperChar_spec c).1 (hnil c hc)
  · rintro rfl
    rfl

end Formwork.Text
