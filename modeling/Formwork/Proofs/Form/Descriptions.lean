import Formwork.Form.Conversion
import Formwork.Proofs.Classes

/-!
# Items and their descriptions

The pairs of names that a pass over a block finds come from neighbours, and no name takes two
descriptions. Where the items of a block have different names, the pass is what it seems to be: a
text item takes the item after it, unless it has itself been taken by the one before it. Then the
pairs are a matching of neighbours that no further pair of neighbours could join.
-/
namespace Formwork.Form

/-- The neighbours of a list are its infixes of two. -/
theorem mem_zip_tail_iff {α : Type} {l : List α} {a b : α} :
    (a, b) ∈ l.zip l.tail ↔ [a, b] <:+: l := by
  induction l with
  | nil => simp
  | cons c l ih =>
    rw [List.infix_cons_iff, ← ih]
    cases l with
    | nil => simp
    | cons d l => simp [List.cons_prefix_cons]

theorem eq_of_infix_of_infix {α : Type} {l : List α} {a a' c : α} (h : l.Nodup)
    (ha : [a, c] <:+: l) (ha' : [a', c] <:+: l) : a = a' := by
  have hnodup : ((l.zip l.tail).map Prod.snd).Nodup := by
    rw [List.map_snd_zip (by simp)]
    exact h.tail
  have heq := List.inj_on_of_nodup_map hnodup (mem_zip_tail_iff.mpr ha)
    (mem_zip_tail_iff.mpr ha') rfl
  exact (Prod.mk.inj heq).1

/-! ## Setting a pair -/

section SetPair

variable {pairs : List (String × String)} {key value k d : String}

theorem mem_of_mem_setPair (h : (k, d) ∈ setPair key value pairs) :
    (k = key ∧ d = value) ∨ (k, d) ∈ pairs := by
  induction pairs with
  | nil => simpa [setPair] using h
  | cons p pairs ih =>
    rw [setPair] at h
    split at h
    · next heq =>
      rcases List.mem_cons.mp h with hhead | htail
      · obtain ⟨hk, hd⟩ := Prod.mk.inj hhead
        exact Or.inl ⟨hk.trans (beq_iff_eq.mp heq), hd⟩
      · exact Or.inr (List.mem_cons_of_mem p htail)
    · rcases List.mem_cons.mp h with hhead | htail
      · exact Or.inr (List.mem_cons.mpr (Or.inl hhead))
      · exact (ih htail).imp_right (List.mem_cons_of_mem p)

theorem mem_setPair_self : (key, value) ∈ setPair key value pairs := by
  induction pairs with
  | nil => exact List.mem_cons_self
  | cons p pairs ih =>
    rw [setPair]
    split
    · next heq =>
      rw [beq_iff_eq.mp heq]
      exact List.mem_cons_self
    · exact List.mem_cons_of_mem p ih

theorem mem_setPair_of_ne (hne : k ≠ key) (h : (k, d) ∈ pairs) :
    (k, d) ∈ setPair key value pairs := by
  induction pairs with
  | nil => cases h
  | cons p pairs ih =>
    rw [setPair]
    rcases List.mem_cons.mp h with rfl | htail
    · have hother : (k == key) = false := beq_eq_false_iff_ne.mpr hne
      simp [hother]
    · split
      · exact List.mem_cons_of_mem _ htail
      · exact List.mem_cons_of_mem p (ih htail)

theorem map_fst_setPair : (setPair key value pairs).map (·.1) =
    if key ∈ pairs.map (·.1) then pairs.map (·.1) else pairs.map (·.1) ++ [key] := by
  induction pairs with
  | nil => simp [setPair]
  | cons p pairs ih =>
    rw [setPair]
    by_cases heq : p.1 = key
    · simp [heq]
    · have hother : (p.1 == key) = false := beq_eq_false_iff_ne.mpr heq
      simp only [hother, Bool.false_eq_true, if_false, List.map_cons, ih, List.mem_cons,
        Ne.symm heq, false_or]
      split <;> rfl

theorem nodup_map_fst_setPair (h : (pairs.map (·.1)).Nodup) :
    ((setPair key value pairs).map (·.1)).Nodup := by
  rw [map_fst_setPair]
  split
  · exact h
  · next hkey => exact List.nodup_append.mpr ⟨h, by simp, by
      intro a ha b hb heq
      exact hkey (by rw [← List.mem_singleton.mp hb, ← heq]; exact ha)⟩

end SetPair

/-! ## One pair of neighbours -/

section AddPair

variable {pairs : List (String × String)} {x y : Item} {k d : String}

/-- An item is a text item that the next one describes, and it is no description itself. -/
def MayTake (pairs : List (String × String)) (x y : Item) : Prop :=
  x.type = .textItem ∧ describes x y = true ∧ ∀ k, (k, x.name) ∉ pairs

theorem addPair_of_mayTake (h : MayTake pairs x y) :
    addPair pairs x y = setPair x.name y.name pairs := by
  obtain ⟨htype, hdescribes, hfree⟩ := h
  rw [addPair, if_pos]
  simp only [Bool.and_eq_true, beq_iff_eq, Bool.not_eq_true', List.any_eq_false]
  refine ⟨⟨htype, hdescribes⟩, ?_⟩
  rintro ⟨k, d⟩ hmem rfl
  exact hfree k hmem

theorem addPair_of_not_mayTake (h : ¬ MayTake pairs x y) : addPair pairs x y = pairs := by
  rw [addPair, if_neg]
  intro hcond
  simp only [Bool.and_eq_true, beq_iff_eq, Bool.not_eq_true', List.any_eq_false] at hcond
  obtain ⟨⟨htype, hdescribes⟩, hany⟩ := hcond
  exact h ⟨htype, hdescribes, fun k hmem => hany (k, x.name) hmem rfl⟩

theorem mem_of_mem_addPair (h : (k, d) ∈ addPair pairs x y) :
    (k = x.name ∧ d = y.name ∧ MayTake pairs x y) ∨ (k, d) ∈ pairs := by
  by_cases htake : MayTake pairs x y
  · rw [addPair_of_mayTake htake] at h
    exact (mem_of_mem_setPair h).imp_left fun ⟨hk, hd⟩ => ⟨hk, hd, htake⟩
  · rw [addPair_of_not_mayTake htake] at h
    exact Or.inr h

theorem mem_addPair_of_ne (hne : k ≠ x.name) (h : (k, d) ∈ pairs) : (k, d) ∈ addPair pairs x y := by
  by_cases htake : MayTake pairs x y
  · rw [addPair_of_mayTake htake]
    exact mem_setPair_of_ne hne h
  · rwa [addPair_of_not_mayTake htake]

theorem nodup_map_fst_addPair (h : (pairs.map (·.1)).Nodup) :
    ((addPair pairs x y).map (·.1)).Nodup := by
  by_cases htake : MayTake pairs x y
  · rw [addPair_of_mayTake htake]
    exact nodup_map_fst_setPair h
  · rwa [addPair_of_not_mayTake htake]

end AddPair

/-! ## A pass over neighbours -/

section Pass

variable {pairs : List (String × String)} {k d : String}

/-- The pairs of names after a pass over neighbours. -/
def addPairs (pairs : List (String × String)) (neighbours : List (Item × Item)) :
    List (String × String) :=
  neighbours.foldl (fun pairs (current, following) => addPair pairs current following) pairs

theorem descriptionPairs_eq (items : List Item) :
    descriptionPairs items = addPairs [] (items.zip items.tail) := rfl

theorem addPairs_append (before after : List (Item × Item)) :
    addPairs pairs (before ++ after) = addPairs (addPairs pairs before) after :=
  List.foldl_append

theorem mem_of_mem_addPairs {neighbours : List (Item × Item)}
    (h : (k, d) ∈ addPairs pairs neighbours) :
    (k, d) ∈ pairs ∨ ∃ x y, (x, y) ∈ neighbours ∧ k = x.name ∧ d = y.name ∧
      x.type = .textItem ∧ describes x y = true := by
  induction neighbours generalizing pairs with
  | nil => exact Or.inl h
  | cons n neighbours ih =>
    rcases ih h with hadded | ⟨x, y, hmem, hxy⟩
    · rcases mem_of_mem_addPair hadded with ⟨hk, hd, htype, hdescribes, -⟩ | hold
      · exact Or.inr ⟨n.1, n.2, List.mem_cons_self, hk, hd, htype, hdescribes⟩
      · exact Or.inl hold
    · exact Or.inr ⟨x, y, List.mem_cons_of_mem n hmem, hxy⟩

theorem mem_addPairs_of_mem {neighbours : List (Item × Item)} (h : (k, d) ∈ pairs)
    (hne : ∀ n ∈ neighbours, k ≠ n.1.name) : (k, d) ∈ addPairs pairs neighbours := by
  induction neighbours generalizing pairs with
  | nil => exact h
  | cons n neighbours ih =>
    obtain ⟨hn, hne⟩ := List.forall_mem_cons.mp hne
    exact ih (mem_addPair_of_ne hn h) hne

theorem nodup_map_fst_addPairs (neighbours : List (Item × Item)) (h : (pairs.map (·.1)).Nodup) :
    ((addPairs pairs neighbours).map (·.1)).Nodup := by
  induction neighbours generalizing pairs with
  | nil => exact h
  | cons n neighbours ih => exact ih (nodup_map_fst_addPair h)

end Pass

/-! ## The descriptions of a block -/

section Block

variable {items : List Item} {x y : Item} {k d : String}

theorem nodup_map_fst_descriptionPairs (items : List Item) :
    ((descriptionPairs items).map (·.1)).Nodup :=
  nodup_map_fst_addPairs _ List.nodup_nil

/-- An item takes the next one as its description. -/
def Takes (items : List Item) (x y : Item) : Prop :=
  [x, y] <:+: items ∧ x.type = .textItem ∧ describes x y = true ∧
    (x.name, y.name) ∈ descriptionPairs items

theorem exists_takes (h : (k, d) ∈ descriptionPairs items) :
    ∃ x y, Takes items x y ∧ x.name = k ∧ y.name = d := by
  rcases mem_of_mem_addPairs h with hnil | ⟨x, y, hmem, rfl, rfl, htype, hdescribes⟩
  · cases hnil
  · exact ⟨x, y, ⟨mem_zip_tail_iff.mp hmem, htype, hdescribes, h⟩, rfl, rfl⟩

theorem exists_takes_of_nodup (hnodup : (items.map (·.name)).Nodup) (hy : y ∈ items)
    (h : (k, y.name) ∈ descriptionPairs items) : ∃ x, Takes items x y ∧ x.name = k := by
  obtain ⟨x, y', htakes, hx, hname⟩ := exists_takes h
  have hy' : y' ∈ items := htakes.1.mem (by simp)
  obtain rfl : y' = y := List.inj_on_of_nodup_map hnodup hy' hy hname
  exact ⟨x, htakes, hx⟩

theorem fst_mem_of_mem_zip_tail {α : Type} {before : List α} {a b c : α}
    (h : (a, b) ∈ (before ++ [c]).zip (before ++ [c]).tail) : a ∈ before := by
  induction before with
  | nil => simp at h
  | cons d before ih =>
    cases before with
    | nil => simp_all
    | cons e before =>
      rcases List.mem_cons.mp h with hhead | htail
      · exact List.mem_cons.mpr (Or.inl (Prod.mk.inj hhead).1)
      · exact List.mem_cons_of_mem d (ih htail)

theorem zip_tail_append_cons_cons {α : Type} (before after : List α) (a b : α) :
    (before ++ a :: b :: after).zip (before ++ a :: b :: after).tail =
      (before ++ [a]).zip (before ++ [a]).tail ++ (a, b) :: (b :: after).zip after := by
  induction before with
  | nil => simp
  | cons c before ih =>
    cases before with
    | nil => simp
    | cons d before => simpa using ih

section Split

variable {before after : List Item}

theorem descriptionPairs_split (before after : List Item) (x y : Item) :
    descriptionPairs (before ++ x :: y :: after) =
      addPairs (addPair (descriptionPairs (before ++ [x])) x y) ((y :: after).zip after) := by
  rw [descriptionPairs_eq, zip_tail_append_cons_cons, addPairs_append]
  rfl

theorem exists_name_of_mem_init (h : (k, d) ∈ descriptionPairs (before ++ [x])) :
    ∃ w ∈ before, k = w.name := by
  rcases mem_of_mem_addPairs h with hnil | ⟨w, z, hmem, hk, -⟩
  · cases hnil
  · exact ⟨w, fst_mem_of_mem_zip_tail hmem, hk⟩

variable (hnodup : ((before ++ x :: y :: after).map (·.name)).Nodup)
include hnodup

theorem name_ne_of_nodup :
    (∀ w ∈ before, ∀ z ∈ x :: y :: after, w.name ≠ z.name) ∧
      ∀ z ∈ y :: after, x.name ≠ z.name := by
  rw [List.map_append, List.nodup_append, List.map_cons, List.nodup_cons] at hnodup
  obtain ⟨-, ⟨hx, -⟩, hbefore⟩ := hnodup
  refine ⟨fun w hw z hz => ?_, fun z hz heq => ?_⟩
  · exact hbefore _ (List.mem_map_of_mem hw) _ (List.mem_map_of_mem (f := (·.name)) hz)
  · exact hx (by rw [heq]; exact List.mem_map_of_mem (f := (·.name)) hz)

/-- Whether an item is taken is known before it is looked at. -/
theorem mem_descriptionPairs_iff_init :
    (k, x.name) ∈ descriptionPairs (before ++ x :: y :: after) ↔
      (k, x.name) ∈ descriptionPairs (before ++ [x]) := by
  obtain ⟨hbefore, hx⟩ := name_ne_of_nodup hnodup
  rw [descriptionPairs_split]
  constructor
  · intro h
    -- From the item on only later items are taken.
    rcases mem_of_mem_addPairs h with hadded | ⟨w, z, hmem, -, hz, -⟩
    · rcases mem_of_mem_addPair hadded with ⟨-, hy, -⟩ | hinit
      · exact absurd hy (hx y List.mem_cons_self)
      · exact hinit
    · exact absurd hz (hx z (List.mem_cons_of_mem y (List.of_mem_zip hmem).2))
  · intro h
    -- The earlier item that takes it does not come again, so that its pair stays.
    obtain ⟨w, hw, rfl⟩ := exists_name_of_mem_init h
    refine mem_addPairs_of_mem (mem_addPair_of_ne (hbefore w hw x List.mem_cons_self) h) ?_
    exact fun n hn => hbefore w hw n.1 (List.mem_cons_of_mem x (List.of_mem_zip hn).1)

/-- What an item takes is settled when it is looked at. -/
theorem mem_descriptionPairs_iff_mayTake :
    (x.name, y.name) ∈ descriptionPairs (before ++ x :: y :: after) ↔
      MayTake (descriptionPairs (before ++ [x])) x y := by
  obtain ⟨hbefore, hx⟩ := name_ne_of_nodup hnodup
  rw [descriptionPairs_split]
  constructor
  · intro h
    rcases mem_of_mem_addPairs h with hadded | ⟨w, z, hmem, hw, -⟩
    · rcases mem_of_mem_addPair hadded with ⟨-, -, htake⟩ | hinit
      · exact htake
      · obtain ⟨w, hw, heq⟩ := exists_name_of_mem_init hinit
        exact absurd heq.symm (hbefore w hw x List.mem_cons_self)
    · exact absurd hw (hx w (List.of_mem_zip hmem).1)
  · intro h
    refine mem_addPairs_of_mem ?_ fun n hn => hx n.1 (List.of_mem_zip hn).1
    rw [addPair_of_mayTake h]
    exact mem_setPair_self

end Split

/-- **Neighbours pair greedily.** With different names in a block, a text item takes the next one,
if that describes it, exactly where no item takes the text item. -/
theorem takes_iff (hnodup : (items.map (·.name)).Nodup) (h : [x, y] <:+: items) :
    Takes items x y ↔
      x.type = .textItem ∧ describes x y = true ∧ ∀ w, ¬ Takes items w x := by
  have hx : x ∈ items := h.mem (by simp)
  have hfree : (∀ k, (k, x.name) ∉ descriptionPairs items) ↔ ∀ w, ¬ Takes items w x := by
    constructor
    · exact fun hfree w hw => hfree w.name hw.2.2.2
    · intro hfree k hk
      obtain ⟨w, hw, -⟩ := exists_takes_of_nodup hnodup hx hk
      exact hfree w hw
  obtain ⟨before, after, hsplit⟩ := id h
  rw [List.append_assoc, List.cons_append, List.cons_append, List.nil_append] at hsplit
  subst hsplit
  simp only [Takes, h, true_and, mem_descriptionPairs_iff_mayTake hnodup, MayTake] at hfree ⊢
  simp only [← mem_descriptionPairs_iff_init hnodup, hfree]
  tauto

end Block

/-! ## Matchings -/

section Matching

variable {items : List Item} {x y : Item} {k d : String}

/-- A text item stands before an item that could be its description: a text or display item without
a prompt on the same canvas. -/
structure CouldTake (x y : Item) : Prop where
  text : x.type = .textItem
  plain : y.type = .displayItem ∨ y.type = .textItem
  unprompted : y.prompt = ""
  canvas : x.canvas = y.canvas

theorem couldTake_iff : CouldTake x y ↔ x.type = .textItem ∧ describes x y = true := by
  simp only [describes, Bool.and_eq_true, Bool.or_eq_true, beq_iff_eq]
  constructor
  · rintro ⟨htext, hplain, hprompt, hcanvas⟩
    exact ⟨htext, ⟨hplain, hprompt⟩, hcanvas⟩
  · rintro ⟨htext, ⟨hplain, hprompt⟩, hcanvas⟩
    exact ⟨htext, hplain, hprompt, hcanvas⟩

/-- Pairs of names match neighbours of a list: every name stands in one pair at most, and a pair of
neighbours is only left out because the first of them is taken already. -/
structure IsMatching (items : List Item) (pairs : List (String × String)) : Prop where
  nodup_fst : (pairs.map (·.1)).Nodup
  nodup_snd : (pairs.map (·.2)).Nodup
  disjoint : ∀ name ∈ pairs.map (·.1), name ∉ pairs.map (·.2)
  neighbours : ∀ k d, (k, d) ∈ pairs →
    ∃ x y, [x, y] <:+: items ∧ CouldTake x y ∧ x.name = k ∧ y.name = d
  leftOut : ∀ x y, [x, y] <:+: items → CouldTake x y → (x.name, y.name) ∉ pairs →
    ∃ w, [w, x] <:+: items ∧ (w.name, x.name) ∈ pairs

theorem Takes.couldTake (h : Takes items x y) : CouldTake x y :=
  couldTake_iff.mpr ⟨h.2.1, h.2.2.1⟩

variable (hnodup : (items.map (·.name)).Nodup)
include hnodup

/-- A description is taken by one item only. -/
theorem Takes.eq_left {x' y' : Item} (h : Takes items x y) (h' : Takes items x' y')
    (hname : y.name = y'.name) : x = x' := by
  obtain rfl : y = y' :=
    List.inj_on_of_nodup_map hnodup (h.1.mem (by simp)) (h'.1.mem (by simp)) hname
  exact eq_of_infix_of_infix (List.Nodup.of_map _ hnodup) h.1 h'.1

theorem nodup_map_snd_descriptionPairs : ((descriptionPairs items).map (·.2)).Nodup := by
  refine (List.nodup_map_iff_inj_on (nodup_map_fst_descriptionPairs items).of_map).mpr ?_
  rintro ⟨k, d⟩ hk ⟨k', d'⟩ hk' heq
  obtain rfl : d = d' := heq
  obtain ⟨x, y, htakes, rfl, hy⟩ := exists_takes hk
  obtain ⟨x', y', htakes', rfl, hy'⟩ := exists_takes hk'
  rw [htakes.eq_left hnodup htakes' (hy.trans hy'.symm)]

/-- An item that takes a description is none. -/
theorem notMem_map_snd_descriptionPairs (h : (k, d) ∈ descriptionPairs items) :
    k ∉ (descriptionPairs items).map (·.2) := by
  intro hmem
  obtain ⟨⟨w, name⟩, hw, hname⟩ := List.mem_map.mp hmem
  obtain ⟨x, y, htakes, hx, -⟩ := exists_takes h
  obtain rfl : name = x.name := hname.trans hx.symm
  obtain ⟨v, hv, -⟩ := exists_takes_of_nodup hnodup (htakes.1.mem (by simp)) hw
  exact ((takes_iff hnodup htakes.1).mp htakes).2.2 v hv

/-- **Descriptions are a matching.** Where the items of a block have different names, no name takes
a description and is one, no description is taken twice, every pair is one of neighbours of which
the second may describe the first, and of such neighbours only those are no pair whose first is the
description of the item before it. -/
theorem isMatching_descriptionPairs : IsMatching items (descriptionPairs items) where
  nodup_fst := nodup_map_fst_descriptionPairs items
  nodup_snd := nodup_map_snd_descriptionPairs hnodup
  disjoint := by
    intro name hname
    obtain ⟨⟨k, d⟩, hk, rfl⟩ := List.mem_map.mp hname
    exact notMem_map_snd_descriptionPairs hnodup hk
  neighbours := by
    intro k d hk
    obtain ⟨x, y, htakes, hx, hy⟩ := exists_takes hk
    exact ⟨x, y, htakes.1, htakes.couldTake, hx, hy⟩
  leftOut := by
    intro x y hxy hmay hpair
    obtain ⟨htext, hdescribes⟩ := couldTake_iff.mp hmay
    have hnot : ¬ Takes items x y := fun htakes => hpair htakes.2.2.2
    rw [takes_iff hnodup hxy] at hnot
    push Not at hnot
    obtain ⟨w, hw⟩ := hnot htext hdescribes
    exact ⟨w, hw.1, hw.2.2.2⟩

omit hnodup in
/-- In a run of unprompted text items every other one is taken; the last of five stays alone. -/
theorem isMatching_descriptionPairs_run :
    let run : List Item := ["A", "B", "C", "D", "E"].map (fun name => { name })
    (run.map (·.name)).Nodup ∧ IsMatching run (descriptionPairs run) ∧
      descriptionPairs run = [("A", "B"), ("C", "D")] := by
  intro run
  have hnodup : (run.map (·.name)).Nodup := by decide
  exact ⟨hnodup, isMatching_descriptionPairs hnodup, by decide⟩

end Matching

end Formwork.Form
