import Mathlib.Data.List.Forall2
import Mathlib.Data.List.Nodup
import Formwork.Proofs.Application.Placement
import Formwork.Proofs.Decimal.Head

/-!
# Computations that draw ids

`Numbered.Returns` says what a computation returns, whatever ids it draws. It is read off a
computation step by step, and off a list of computations entry by entry. The ids of one source
differ from each other, because the number of an id can be read back, with zeros before it or
without.
-/
namespace Formwork

namespace Numbered

variable {α β : Type}

/-- What a computation returns has a property, whatever ids it draws. -/
def Returns (x : Numbered α) (P : α → Prop) : Prop :=
  ∀ src, P (x.run src).1

theorem returns_pure {a : α} {P : α → Prop} (h : P a) : Returns (pure a) P :=
  fun _ => h

theorem Returns.imp {x : Numbered α} {P Q : α → Prop} (hx : x.Returns P) (h : ∀ a, P a → Q a) :
    x.Returns Q :=
  fun src => h _ (hx src)

theorem Returns.and {x : Numbered α} {P Q : α → Prop} (hP : x.Returns P) (hQ : x.Returns Q) :
    x.Returns (fun a => P a ∧ Q a) :=
  fun src => ⟨hP src, hQ src⟩

theorem Returns.bind {x : Numbered α} {f : α → Numbered β} {P : α → Prop} {Q : β → Prop}
    (hx : x.Returns P) (hf : ∀ a, P a → (f a).Returns Q) : (x >>= f).Returns Q :=
  fun src => hf _ (hx src) _

/-- What is returned does not depend on the id that is drawn first. -/
theorem returns_freshId_bind {f : String → Numbered α} {P : α → Prop}
    (hf : ∀ id, (f id).Returns P) : (freshId >>= f).Returns P :=
  fun _ => hf _ _

/-- A computation for every entry of a list returns a list of as many entries. -/
theorem returns_mapM {f : α → Numbered β} {R : α → β → Prop} {items : List α}
    (h : ∀ a ∈ items, (f a).Returns (R a)) :
    (items.mapM f).Returns (List.Forall₂ R items) := by
  induction items with
  | nil => exact returns_pure List.Forall₂.nil
  | cons a items ih =>
    have ih := ih fun b hb => h b (List.mem_cons_of_mem a hb)
    rw [List.mapM_cons]
    refine (h a List.mem_cons_self).bind fun b hb => ih.bind fun bs hbs => ?_
    exact returns_pure (List.Forall₂.cons hb hbs)

end Numbered

namespace IdSource

/-- The next ids of a source. -/
def upcoming (src : IdSource) (n : Nat) : List String :=
  (List.range n).map (fun i => src.id (src.drawn + i + 1))

theorem upcoming_add (src : IdSource) (n k : Nat) :
    src.upcoming (n + k) =
      src.upcoming n ++ ({ src with drawn := src.drawn + n } : IdSource).upcoming k := by
  have hshift : ∀ i, src.drawn + (n + i) + 1 = src.drawn + n + i + 1 := by omega
  simp only [upcoming, List.range_add, List.map_append, List.map_map, Function.comp_def, hshift]
  rfl

theorem toList_padded (width n : Nat) :
    (padded width n).toList =
      List.replicate (width - (Nat.toDigits 10 n).length) '0' ++ Nat.toDigits 10 n := by
  have hdigits : (toString n).toList = Nat.toDigits 10 n := String.toList_ofList
  have hlength : (toString n).length = (Nat.toDigits 10 n).length := by
    rw [← hdigits, String.length_toList]
  rw [padded, String.toList_append, String.toList_ofList, hdigits, hlength]

/-- Zeros before a number do not change what is read. -/
theorem ofDigitChars_replicate (n : Nat) (digits : List Char) :
    Nat.ofDigitChars 10 (List.replicate n '0' ++ digits) 0 = Nat.ofDigitChars 10 digits 0 := by
  induction n with
  | zero => rfl
  | succ n ih =>
    rw [List.replicate_succ, List.cons_append, Nat.ofDigitChars_cons]
    exact ih

theorem padded_injective (width : Nat) : Function.Injective (padded width) := by
  intro n k h
  have hread : ∀ n, Nat.ofDigitChars 10 (padded width n).toList 0 = n := by
    intro n
    rw [toList_padded, ofDigitChars_replicate, Nat.ofDigitChars_ten_toDigits]
  rw [← hread n, h, hread k]

theorem id_injective (src : IdSource) : Function.Injective src.id := by
  intro n k h
  have hlists := congrArg String.toList h
  rw [id, id, String.toList_append, String.toList_append] at hlists
  exact padded_injective 3 (String.toList_inj.mp (List.append_cancel_left hlists))

theorem nodup_upcoming (src : IdSource) (n : Nat) : (src.upcoming n).Nodup := by
  refine List.Nodup.map ?_ List.nodup_range
  intro i j h
  have hnumber := src.id_injective h
  omega

/-- An id that is drawn begins as the base does. -/
theorem head?_of_mem_upcoming {src : IdSource} {n : Nat} {id : String} (h : id ∈ src.upcoming n)
    {c : Char} (hbase : src.base.toList.head? = some c) : id.toList.head? = some c := by
  obtain ⟨i, -, rfl⟩ := List.mem_map.mp h
  rw [IdSource.id, String.toList_append, List.head?_append, hbase, Option.some_or]

/-- The base is the text of a number. -/
def HasNumberBase (src : IdSource) : Prop :=
  (∃ i : Int, src.base = toString i) ∨ ∃ x : Double, src.base = x.toText

theorem beginsAsNumber_of_mem_upcoming {src : IdSource} (hbase : src.HasNumberBase) {n : Nat}
    {id : String} (h : id ∈ src.upcoming n) : BeginsAsNumber id.toList := by
  have hnumber : BeginsAsNumber src.base.toList := by
    obtain ⟨i, hi⟩ | ⟨x, hx⟩ := hbase
    · rw [hi]
      exact beginsAsNumber_toString i
    · rw [hx]
      exact x.beginsAsNumber_toText
  obtain ⟨c, hc, hhead⟩ := hnumber
  exact ⟨c, hc, head?_of_mem_upcoming h hhead⟩

end IdSource

end Formwork
