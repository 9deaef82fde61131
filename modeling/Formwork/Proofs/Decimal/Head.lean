import Formwork.Decimal.Shortest
import Formwork.Proofs.Schema.Statement

/-!
# How texts of numbers begin

With a digit or a minus, or, where they are infinite or no numbers, with the first letter of a word.
-/
namespace Formwork

/-- The characters with which the texts of numbers begin. -/
def numberHeads : List Char :=
  "-0123456789in".toList

/-- A text that begins as a number does. -/
def BeginsAsNumber (cs : List Char) : Prop :=
  ∃ c ∈ numberHeads, cs.head? = some c

theorem beginsAsNumber_toString (i : Int) : BeginsAsNumber (toString i).toList := by
  have hdigits : Schema.decimalDigits ⊆ numberHeads := by decide
  obtain ⟨digits, hne, hmem, h | h⟩ := Schema.exists_digits i
  · obtain ⟨c, rest, rfl⟩ := List.exists_cons_of_ne_nil hne
    exact ⟨c, hdigits (hmem c List.mem_cons_self), by rw [h]; rfl⟩
  · exact ⟨'-', by decide, by rw [h]; rfl⟩

namespace Double

theorem beginsAsNumber_digits (n : Nat) : BeginsAsNumber (digits n) := by
  have htext := beginsAsNumber_toString n
  rwa [show (toString (n : Int)).toList = digits n from String.toList_ofList] at htext

theorem beginsAsNumber_withPoint {ds : List Char} (h : BeginsAsNumber ds) (place : Int) :
    BeginsAsNumber (withPoint ds place) := by
  obtain ⟨c, hc, hhead⟩ := h
  obtain ⟨rest, rfl⟩ := List.head?_eq_some_iff.mp hhead
  rw [withPoint]
  split
  · exact ⟨'0', by decide, rfl⟩
  · next hplace =>
    split
    · obtain ⟨k, hk⟩ : ∃ k, place.toNat = k + 1 := ⟨place.toNat - 1, by omega⟩
      rw [hk]
      exact ⟨c, hc, rfl⟩
    · exact ⟨c, hc, rfl⟩

theorem beginsAsNumber_withExponent {ds : List Char} (h : BeginsAsNumber ds) (exponent : Int) :
    BeginsAsNumber (withExponent ds exponent) := by
  obtain ⟨c, hc, hhead⟩ := h
  obtain ⟨rest, rfl⟩ := List.head?_eq_some_iff.mp hhead
  refine ⟨c, hc, ?_⟩
  cases rest <;> rfl

theorem beginsAsNumber_toText (x : Double) : BeginsAsNumber x.toText.toList := by
  have hsign : ∀ (s : Bool) {body : List Char}, BeginsAsNumber body →
      BeginsAsNumber ((if s then ['-'] else []) ++ body) := by
    intro s body hbody
    cases s with
    | true => exact ⟨'-', by decide, rfl⟩
    | false => exact hbody
  cases x with
  | nan => exact ⟨'n', by decide, by decide⟩
  | infinite s =>
    cases s with
    | true => exact ⟨'-', by decide, by decide⟩
    | false => exact ⟨'i', by decide, by decide⟩
  | finite s m e =>
    simp only [toText]
    split
    · rw [String.toList_ofList]
      exact hsign s ⟨'0', by decide, rfl⟩
    · rw [String.toList_ofList]
      refine hsign s ?_
      split
      · exact beginsAsNumber_withPoint (beginsAsNumber_digits _) _
      · exact beginsAsNumber_withExponent (beginsAsNumber_digits _) _
end Double

end Formwork
