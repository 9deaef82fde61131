import Mathlib.Data.List.Induction
import Formwork.Decimal.Numeral
import Formwork.Error

/-!
# Integers up to the limit of digits

Integers are read and written unless they have more digits than that. So a step that reads or writes
some is described by the condition under which it succeeds, and the conditions of steps that follow
one another are put together as the steps are.
-/
namespace Formwork

variable {ε α β γ : Type}

/-! ## Integers that can be written -/

theorem exceedsDigits_eq_false {n : Int} :
    exceedsDigits n = false ↔ n.natAbs < firstOverlong := by
  unfold exceedsDigits
  rw [decide_eq_false_iff_not, Nat.not_le]

theorem pow_le_firstOverlong {size : Nat} (h : size ≤ integerDigitLimit) :
    Nat.pow 10 size ≤ firstOverlong := by
  unfold firstOverlong
  -- The power is not to be evaluated.
  generalize integerDigitLimit = limit at h ⊢
  exact Nat.pow_le_pow_right (by decide) h

theorem exceedsDigits_of_le {n : Int} (h : n.natAbs ≤ 4000) : exceedsDigits n = false :=
  exceedsDigits_eq_false.mpr (Nat.lt_of_le_of_lt h (by decide +kernel))

/-! ## Integers that are read -/

theorem digitValue_lt {c : Char} {d : Nat} (h : Text.digitValue? c = some d) : d < 10 := by
  unfold Text.digitValue? at h
  split at h
  · split at h
    · next hdigit =>
      obtain rfl := Option.some.inj h
      have hle : c.toNat ≤ 57 := (Char.isDigit_iff_toNat.mp hdigit).2
      omega
    · cases h
  · obtain ⟨first, hfind, rfl⟩ := Option.map_eq_some_iff.mp h
    have hrange := Array.find?_some hfind
    simp only [Bool.and_eq_true, decide_eq_true_eq] at hrange
    omega

theorem plainDigit_lt {c : Char} (h : Text.isDecimalDigit c = true) :
    (plainDigit c).toNat - 48 < 10 := by
  obtain ⟨d, hd⟩ := Option.isSome_iff_exists.mp h
  have hplain : ∀ d < 10, (Char.ofNat (48 + d)).toNat - 48 < 10 := by decide
  rw [plainDigit, hd]
  exact hplain d (digitValue_lt hd)

theorem digitsValue_lt {ds : List Char} (h : ∀ c ∈ ds, c.toNat - 48 < 10) :
    digitsValue ds < Nat.pow 10 ds.length := by
  induction ds using List.reverseRecOn with
  | nil => exact Nat.one_pos
  | append_singleton ds c ih =>
    have hstep : digitsValue (ds ++ [c]) = 10 * digitsValue ds + (c.toNat - 48) :=
      List.foldl_append
    have hlast := h c (List.mem_append_right ds (List.mem_singleton_self c))
    have hbefore := ih fun d hd => h d (List.mem_append_left [c] hd)
    have hpow : Nat.pow 10 (ds.length + 1) = Nat.pow 10 ds.length * 10 := rfl
    rw [hstep, List.length_append, List.length_singleton, hpow]
    omega

/-! ## Steps that may fail -/

theorem bind_eq_ok {x : Except ε α} {f : α → Except ε β} {b : β} :
    x >>= f = .ok b ↔ ∃ a, x = .ok a ∧ f a = .ok b := by
  cases x with
  | error e => simp [Bind.bind, Except.bind]
  | ok a => simp [Bind.bind, Except.bind]

theorem map_eq_ok {x : Except ε α} {f : α → β} {b : β} :
    x.map f = .ok b ↔ ∃ a, x = .ok a ∧ f a = b := by
  cases x with
  | error e => simp [Except.map]
  | ok a => simp [Except.map]

theorem ok_bind (a : α) (f : α → Except ε β) : (.ok a : Except ε α) >>= f = f a :=
  rfl

theorem bind_ok_eq_map (x : Except ε α) (g : α → β) : (x >>= fun a => .ok (g a)) = x.map g := by
  cases x <;> rfl

theorem map_toOption_eq_some {x : Except ε α} {f : α → β} {b : β} :
    x.toOption.map f = some b ↔ ∃ a, x = .ok a ∧ f a = b := by
  cases x with
  | error e => simp [Except.toOption]
  | ok a => simp [Except.toOption]

/-- All steps succeed, one result for each. -/
theorem mapM_eq_ok {f : α → Except ε β} {as : List α} {bs : List β} :
    as.mapM f = .ok bs ↔ as.map f = bs.map .ok := by
  induction as generalizing bs with
  | nil =>
    rw [List.mapM_nil, List.map_nil, eq_comm (a := []), List.map_eq_nil_iff]
    exact ⟨fun h => (Except.ok.inj h).symm, fun h => h ▸ rfl⟩
  | cons a as ih =>
    rw [List.mapM_cons, bind_eq_ok, List.map_cons]
    constructor
    · rintro ⟨b, hb, h⟩
      obtain ⟨rest, hrest, h⟩ := bind_eq_ok.mp h
      obtain rfl := Except.ok.inj h
      rw [List.map_cons, hb, ih.mp hrest]
    · intro h
      obtain ⟨b, rest, rfl, hb, hrest⟩ := List.map_eq_cons_iff.mp h.symm
      exact ⟨b, hb.symm, bind_eq_ok.mpr ⟨rest, ih.mpr hrest.symm, rfl⟩⟩

theorem exists_of_mem_mapM {f : α → Except ε β} {as : List α} {bs : List β}
    (h : as.mapM f = .ok bs) {b : β} (hb : b ∈ bs) : ∃ a ∈ as, f a = .ok b := by
  have hmem : .ok b ∈ as.map f := mapM_eq_ok.mp h ▸ List.mem_map_of_mem hb
  exact List.mem_map.mp hmem

/-- What every step keeps is kept of all results. -/
theorem map_of_mapM {f : α → Except ε β} {k : α → γ} {g : β → γ} {as : List α} {bs : List β}
    (h : as.mapM f = .ok bs) (hf : ∀ a ∈ as, ∀ b, f a = .ok b → g b = k a) :
    bs.map g = as.map k := by
  induction as generalizing bs with
  | nil =>
    obtain rfl := Except.ok.inj h
    rfl
  | cons a as ih =>
    rw [List.mapM_cons] at h
    obtain ⟨b, hb, h⟩ := bind_eq_ok.mp h
    obtain ⟨rest, hrest, h⟩ := bind_eq_ok.mp h
    obtain rfl := Except.ok.inj h
    rw [List.map_cons, List.map_cons, hf a List.mem_cons_self b hb,
      ih hrest fun c hc => hf c (List.mem_cons_of_mem a hc)]

/-- What is made of all results is made of each where it is computed. -/
theorem map_mapM (f : α → Except ε β) (g : β → γ) (as : List α) :
    (as.mapM f).map (·.map g) = as.mapM (fun a => (f a).map g) := by
  induction as with
  | nil => rfl
  | cons a as ih =>
    rw [List.mapM_cons, List.mapM_cons, ← ih]
    cases f a with
    | error e => rfl
    | ok b => cases as.mapM f <;> rfl

/-- Steps that keep nothing where a test fails are those where it holds. -/
theorem mapM_filter {p : α → Bool} {f : α → Except ε (Option β)} {g : α → Except ε β} {as : List α}
    (hkept : ∀ a ∈ as, p a = true → f a = (g a).map some)
    (hleft : ∀ a ∈ as, p a = false → f a = .ok none) :
    (as.mapM f).map (·.filterMap id) = (as.filter p).mapM g := by
  induction as with
  | nil => rfl
  | cons a as ih =>
    have hrest := ih (fun b hb => hkept b (List.mem_cons_of_mem a hb))
      fun b hb => hleft b (List.mem_cons_of_mem a hb)
    rw [List.mapM_cons]
    cases hp : p a with
    | true =>
      rw [hkept a List.mem_cons_self hp, List.filter_cons_of_pos hp, List.mapM_cons, ← hrest]
      cases g a with
      | error e => rfl
      | ok b => cases as.mapM f <;> rfl
    | false =>
      rw [hleft a List.mem_cons_self hp, List.filter_cons_of_neg (by simp [hp]), ← hrest]
      cases as.mapM f <;> rfl

/-! ## Conditions of success -/

/-- A step succeeds under a condition, and meets an integer of too many digits where it does not
hold. -/
structure OkIff (x : Except Error α) (p : Prop) : Prop where
  ok : p → ∃ a, x = .ok a
  overlong : ¬ p → x = .error .overlong

namespace OkIff

variable {x : Except Error α} {p q : Prop}

theorem iff (h : OkIff x p) : (∃ a, x = .ok a) ↔ p := by
  refine ⟨fun hread => ?_, h.ok⟩
  by_contra hp
  obtain ⟨a, ha⟩ := hread
  rw [h.overlong hp] at ha
  cases ha

theorem of_ok (h : OkIff x p) {a : α} (ha : x = .ok a) : p :=
  h.iff.mp ⟨a, ha⟩

theorem congr (h : OkIff x p) (hpq : p ↔ q) : OkIff x q where
  ok hq := h.ok (hpq.mpr hq)
  overlong hq := h.overlong fun hp => hq (hpq.mp hp)

theorem of_eq_ok {a : α} (h : x = .ok a) (hp : p) : OkIff x p where
  ok _ := ⟨a, h⟩
  overlong hnot := absurd hp hnot

/-- What is refused at once if it has too many digits. -/
theorem guard (c : Bool) (a : α) :
    OkIff (if c then .error .overlong else .ok a) (c = false) := by
  cases c with
  | false => exact of_eq_ok rfl rfl
  | true => exact ⟨fun h => absurd h (by decide), fun _ => rfl⟩

theorem map (h : OkIff x p) (f : α → β) : OkIff (x.map f) p where
  ok hp := by
    obtain ⟨a, ha⟩ := h.ok hp
    exact ⟨f a, map_eq_ok.mpr ⟨a, ha, rfl⟩⟩
  overlong hp := by
    rw [h.overlong hp]
    rfl

/-- One step after the other: the second one may depend on what the first has found. -/
theorem bind {f : α → Except Error β} {q : α → Prop} (h : OkIff x p)
    (hf : ∀ a, x = .ok a → OkIff (f a) (q a)) :
    OkIff (x >>= f) (p ∧ ∀ a, x = .ok a → q a) where
  ok := by
    rintro ⟨hp, hq⟩
    obtain ⟨a, ha⟩ := h.ok hp
    obtain ⟨b, hb⟩ := (hf a ha).ok (hq a ha)
    exact ⟨b, bind_eq_ok.mpr ⟨a, ha, hb⟩⟩
  overlong hnot := by
    by_cases hp : p
    · obtain ⟨a, ha⟩ := h.ok hp
      have hq : ¬ q a := by
        intro hq
        refine hnot ⟨hp, fun b hb => ?_⟩
        rw [ha] at hb
        exact Except.ok.inj hb ▸ hq
      rw [ha]
      exact (hf a ha).overlong hq
    · rw [h.overlong hp]
      rfl

/-- One step after the other, whatever the first has found. -/
theorem seq {f : α → Except Error β} (h : OkIff x p) (hf : ∀ a, OkIff (f a) q) :
    OkIff (x >>= f) (p ∧ q) := by
  refine (h.bind (q := fun _ => q) fun a _ => hf a).congr (and_congr_right fun hp => ?_)
  obtain ⟨a, ha⟩ := h.ok hp
  exact ⟨fun hall => hall a ha, fun hq _ _ => hq⟩

/-- What is done with what has been found does not fail. -/
theorem bind_ok (h : OkIff x p) (g : α → β) : OkIff (x >>= fun a => .ok (g a)) p := by
  rw [bind_ok_eq_map]
  exact h.map g

theorem mapM {f : α → Except Error β} {q : α → Prop} {as : List α}
    (h : ∀ a ∈ as, OkIff (f a) (q a)) : OkIff (as.mapM f) (∀ a ∈ as, q a) := by
  induction as with
  | nil => exact of_eq_ok rfl (by simp)
  | cons a as ih =>
    obtain ⟨hfirst, hrest⟩ := List.forall_mem_cons.mp h
    rw [List.mapM_cons]
    refine (hfirst.seq fun b => (ih hrest).bind_ok (b :: ·)).congr ?_
    rw [List.forall_mem_cons]

theorem forM {f : α → Except Error PUnit} {q : α → Prop} {as : List α}
    (h : ∀ a ∈ as, OkIff (f a) (q a)) : OkIff (as.forM f) (∀ a ∈ as, q a) := by
  induction as with
  | nil => exact of_eq_ok rfl (by simp)
  | cons a as ih =>
    obtain ⟨hfirst, hrest⟩ := List.forall_mem_cons.mp h
    rw [List.forall_mem_cons]
    exact hfirst.seq fun _ => ih hrest

end OkIff

end Formwork
