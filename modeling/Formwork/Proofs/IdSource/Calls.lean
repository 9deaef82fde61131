import Formwork.Proofs.IdSource

/-!
# Calls of a source of ids

A source is asked for ids and told to begin again, in any order. What it hands out is followed call
by call. Between two resets the number of ids drawn only grows, so no id is handed out twice however
many there are. A reset leaves nothing of the calls before it but the base.
-/
namespace Formwork.IdSource

inductive Call where
  | next
  | reset
  deriving Repr, DecidableEq

/-- The id that a call hands out, if it asks for one, and the source after it. -/
def call (src : IdSource) : Call → Option String × IdSource
  | .next => (some src.next.1, src.next.2)
  | .reset => (none, src.reset)

def afterCalls (src : IdSource) (calls : List Call) : IdSource :=
  calls.foldl (fun src c => (src.call c).2) src

/-- What is handed out, call by call. -/
def handedOut (src : IdSource) : List Call → List (Option String)
  | [] => []
  | c :: calls => (src.call c).1 :: (src.call c).2.handedOut calls

variable {src : IdSource} {calls : List Call}

theorem base_call (src : IdSource) (c : Call) : (src.call c).2.base = src.base := by
  cases c <;> rfl

theorem base_afterCalls (src : IdSource) (calls : List Call) :
    (src.afterCalls calls).base = src.base := by
  induction calls generalizing src with
  | nil => rfl
  | cons c calls ih => exact (ih _).trans (base_call src c)

theorem afterCalls_append (src : IdSource) (calls later : List Call) :
    src.afterCalls (calls ++ later) = (src.afterCalls calls).afterCalls later :=
  List.foldl_append

theorem length_handedOut (src : IdSource) (calls : List Call) :
    (src.handedOut calls).length = calls.length := by
  induction calls generalizing src with
  | nil => rfl
  | cons c calls ih => exact congrArg (· + 1) (ih _)

theorem handedOut_append (src : IdSource) (calls later : List Call) :
    src.handedOut (calls ++ later) =
      src.handedOut calls ++ (src.afterCalls calls).handedOut later := by
  induction calls generalizing src with
  | nil => rfl
  | cons c calls ih => exact congrArg ((src.call c).1 :: ·) (ih _)

/-- Without a reset every call draws one id. -/
theorem drawn_afterCalls (h : Call.reset ∉ calls) :
    (src.afterCalls calls).drawn = src.drawn + calls.length := by
  induction calls generalizing src with
  | nil => rfl
  | cons c calls ih =>
    obtain ⟨hc, hcalls⟩ := not_or.mp (List.mem_cons.not.mp h)
    cases c with
    | next =>
      have hrest : (src.next.2.afterCalls calls).drawn = src.drawn + 1 + calls.length := ih hcalls
      rw [List.length_cons, ← Nat.add_assoc, Nat.add_right_comm]
      exact hrest
    | reset => exact absurd rfl hc

/-- A call for an id hands out the one whose number comes after those drawn before. -/
theorem handedOut_of_next {i : Nat} (h : calls[i]? = some .next) :
    (src.handedOut calls)[i]? =
      some (some (src.id ((src.afterCalls (calls.take i)).drawn + 1))) := by
  induction calls generalizing src i with
  | nil => cases h
  | cons c calls ih =>
    cases i with
    | zero =>
      obtain rfl := Option.some.inj h
      rfl
    | succ i =>
      have hrest : ((src.call c).2.handedOut calls)[i]? = _ := ih h
      rw [id, base_call] at hrest
      exact hrest

theorem afterCalls_reset {k : Nat} (h : calls[k]? = some .reset) :
    src.afterCalls (calls.take (k + 1)) = { base := src.base } := by
  rw [List.take_add_one, h, afterCalls_append, ← base_afterCalls src (calls.take k)]
  rfl

/-- From one call for an id to the next without a reset the number of ids drawn grows. -/
theorem drawn_lt_of_between (src : IdSource) {i j : Nat} (hij : i < j) (hi : calls[i]? = some .next)
    (hj : j < calls.length) (hbetween : ∀ k, i < k → k < j → calls[k]? ≠ some .reset) :
    (src.afterCalls (calls.take i)).drawn < (src.afterCalls (calls.take j)).drawn := by
  have hsplit : calls.take j = calls.take i ++ (calls.drop i).take (j - i) := by
    rw [← List.take_add, Nat.add_sub_cancel' (Nat.le_of_lt hij)]
  have hnoreset : Call.reset ∉ (calls.drop i).take (j - i) := by
    intro hreset
    obtain ⟨n, hn⟩ := List.mem_iff_getElem?.mp hreset
    rw [List.getElem?_take, List.getElem?_drop] at hn
    split at hn
    · next hlt =>
      rcases Nat.eq_zero_or_pos n with rfl | hpos
      · rw [Nat.add_zero, hi] at hn
        cases hn
      · exact hbetween (i + n) (by omega) (by omega) hn
    · cases hn
  have hlength : ((calls.drop i).take (j - i)).length = j - i := by
    rw [List.length_take, List.length_drop]
    omega
  rw [hsplit, afterCalls_append, drawn_afterCalls hnoreset, hlength]
  omega

/-- Two calls for ids without a reset between them hand out different ids, however many ids are
drawn. After a reset the calls hand out what they hand out from a new source of the same base. -/
theorem handedOut_differ (src : IdSource) (calls : List Call) :
    (∀ i j : Nat, i < j → calls[i]? = some .next → calls[j]? = some .next →
      (∀ k, i < k → k < j → calls[k]? ≠ some .reset) →
      ∃ a b, (src.handedOut calls)[i]? = some (some a) ∧
        (src.handedOut calls)[j]? = some (some b) ∧ a ≠ b) ∧
    ∀ k : Nat, calls[k]? = some .reset →
      (src.handedOut calls).drop (k + 1) =
        ({ base := src.base } : IdSource).handedOut (calls.drop (k + 1)) := by
  constructor
  · intro i j hij hi hj hbetween
    refine ⟨_, _, handedOut_of_next hi, handedOut_of_next hj, fun hsame => ?_⟩
    have hlt := drawn_lt_of_between src hij hi (List.getElem?_eq_some_iff.mp hj).1 hbetween
    have hnumber := src.id_injective hsame
    omega
  · intro k hk
    have hlength : (src.handedOut (calls.take (k + 1))).length = k + 1 := by
      rw [length_handedOut, List.length_take_of_le (List.getElem?_eq_some_iff.mp hk).1]
    have hall := handedOut_append src (calls.take (k + 1)) (calls.drop (k + 1))
    rw [List.take_append_drop, afterCalls_reset hk] at hall
    rw [hall, List.drop_left' hlength]

/-- The thousandth id is wider than the one before it, and a reset brings the first id again. -/
theorem handedOut_differ_thousandth :
    let src : IdSource := ⟨"7", 998⟩
    let calls : List Call := [.next, .next, .reset, .next]
    src.handedOut calls = [some "7999", some "71000", none, some "7001"] ∧
      (∃ a b, (src.handedOut calls)[0]? = some (some a) ∧
        (src.handedOut calls)[1]? = some (some b) ∧ a ≠ b) ∧
      (src.handedOut calls).drop 3 = ({ base := "7" } : IdSource).handedOut [.next] := by
  intro src calls
  have hcalls := handedOut_differ src calls
  exact ⟨by decide, hcalls.1 0 1 (by decide) rfl rfl (by omega), hcalls.2 2 rfl⟩

end Formwork.IdSource
