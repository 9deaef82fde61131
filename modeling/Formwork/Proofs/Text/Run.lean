import Formwork.Proofs.Text.Blank

/-!
# Runs of a text

A text is read in one way as runs of a class with characters outside the class around them. Once
those characters are written as a mark, stretches of marks are narrowed to one and the marks at the
ends are stripped off, what is left are the runs with one mark between each two. Such a text has the
same runs again.
-/
namespace Formwork.Text

/-- The runs of characters of a class in a text, from left to right: none is empty, and each ends
where the text ends or a character outside the class stands. -/
inductive IsRuns (p : Char → Bool) : List Char → List (List Char) → Prop
  | none {others : List Char} (hothers : ∀ c ∈ others, p c = false) : IsRuns p others []
  | cons {others run rest : List Char} {runs : List (List Char)}
      (hothers : ∀ c ∈ others, p c = false) (hne : run ≠ []) (hrun : ∀ c ∈ run, p c = true)
      (hend : ∀ c ∈ rest.head?, p c = false) (hrest : IsRuns p rest runs) :
      IsRuns p (others ++ (run ++ rest)) (run :: runs)

variable {p : Char → Bool} {mark : Char} {cs : List Char} {runs : List (List Char)}

namespace IsRuns

theorem forall_run (h : IsRuns p cs runs) : ∀ run ∈ runs, run ≠ [] ∧ ∀ c ∈ run, p c = true := by
  induction h with
  | none => exact List.forall_mem_nil _
  | cons _ hne hrun _ _ ih => exact List.forall_mem_cons.mpr ⟨⟨hne, hrun⟩, ih⟩

/-- A text has a run of a class if it has a character of the class. -/
theorem eq_nil_iff (h : IsRuns p cs runs) : runs = [] ↔ ∀ c ∈ cs, p c = false := by
  cases h with
  | none hothers => exact iff_of_true rfl hothers
  | cons _ hne hrun =>
    refine iff_of_false (List.cons_ne_nil _ _) fun hall => ?_
    obtain ⟨c, hc⟩ := List.exists_mem_of_ne_nil _ hne
    have hfalse := hall c (by simp [hc])
    rw [hrun c hc] at hfalse
    cases hfalse

/-- A further character before a text is a character around the runs, a run of its own or the first
character of the first run. -/
theorem exists_cons (h : IsRuns p cs runs) (c : Char) : ∃ runs, IsRuns p (c :: cs) runs := by
  cases hc : p c with
  | false =>
    cases h with
    | none hothers => exact ⟨_, none (List.forall_mem_cons.mpr ⟨hc, hothers⟩)⟩
    | cons hothers hne hrun hend hrest =>
      exact ⟨_, cons (List.forall_mem_cons.mpr ⟨hc, hothers⟩) hne hrun hend hrest⟩
  | true =>
    have hsingle : ∀ d ∈ [c], p d = true := List.forall_mem_singleton.mpr hc
    cases h with
    | none hothers =>
      have hend : ∀ d ∈ cs.head?, p d = false := fun d hd => hothers d (List.mem_of_mem_head? hd)
      exact ⟨_, cons (List.forall_mem_nil _) (List.cons_ne_nil c []) hsingle hend (none hothers)⟩
    | @cons others run rest runs hothers hne hrun hend hrest =>
      cases others with
      | nil =>
        have hlonger : ∀ d ∈ c :: run, p d = true := List.forall_mem_cons.mpr ⟨hc, hrun⟩
        exact ⟨_, cons (List.forall_mem_nil _) (List.cons_ne_nil c run) hlonger hend hrest⟩
      | cons d others =>
        have hapart : ∀ e ∈ (d :: others ++ (run ++ rest)).head?, p e = false := by
          intro e he
          obtain rfl := Option.some.inj he
          exact hothers _ List.mem_cons_self
        exact ⟨_, cons (List.forall_mem_nil _) (List.cons_ne_nil c []) hsingle hapart
          (cons hothers hne hrun hend hrest)⟩

theorem exists_isRuns (p : Char → Bool) (cs : List Char) : ∃ runs, IsRuns p cs runs := by
  induction cs with
  | nil => exact ⟨[], none (List.forall_mem_nil _)⟩
  | cons c cs ih =>
    obtain ⟨runs, h⟩ := ih
    exact h.exists_cons c

end IsRuns

theorem head?_append_of_run {run : List Char} (hne : run ≠ []) (hrun : ∀ c ∈ run, p c = true)
    (rest : List Char) : ∀ c ∈ (run ++ rest).head?, p c = true := by
  intro c hc
  rw [List.head?_append_of_ne_nil _ hne] at hc
  exact hrun c (List.mem_of_mem_head? hc)

/-- The runs of a text are determined by the text. -/
theorem IsRuns.unique {runs' : List (List Char)} (h : IsRuns p cs runs) (h' : IsRuns p cs runs') :
    runs = runs' := by
  induction h generalizing runs' with
  | none hothers => exact (h'.eq_nil_iff.mpr hothers).symm
  | @cons others run rest runs hothers hne hrun hend hrest ih =>
    generalize hcs : others ++ (run ++ rest) = cs at h'
    cases h' with
    | none hnone =>
      have hall := (IsRuns.cons hothers hne hrun hend hrest).eq_nil_iff.mpr (hcs ▸ hnone)
      cases hall
    | @cons others' run' rest' runs' hothers' hne' hrun' hend' hrest' =>
      have hhead := head?_append_of_run hne hrun rest
      have hhead' := head?_append_of_run hne' hrun' rest'
      obtain ⟨-, hafter⟩ := append_inj_of_head (p := fun c => !p c)
        (fun c hc => by simp [hothers c hc]) (fun c hc => by simp [hothers' c hc])
        (fun c hc => by simp [hhead c hc]) (fun c hc => by simp [hhead' c hc]) hcs
      obtain ⟨rfl, rfl⟩ := append_inj_of_head hrun hrun' hend hend' hafter
      rw [ih hrest']

theorem existsUnique_isRuns (p : Char → Bool) (cs : List Char) : ∃! runs, IsRuns p cs runs := by
  obtain ⟨runs, h⟩ := IsRuns.exists_isRuns p cs
  exact ⟨runs, h, fun _ h' => h'.unique h⟩

/-! ## One mark for every run -/

theorem joinRuns_append_of_apart {before : List Char} (h : ∀ c ∈ before, p c = false)
    (rest : List Char) : joinRuns p mark (before ++ rest) = before ++ joinRuns p mark rest := by
  induction before with
  | nil => rfl
  | cons c before ih =>
    obtain ⟨hc, hbefore⟩ := List.forall_mem_cons.mp h
    rw [List.cons_append, joinRuns, if_neg (by simp [hc]), ih hbefore, List.cons_append]

/-- No run goes on into a text that begins outside the class. -/
theorem joinRuns_append {rest : List Char} (hrest : ∀ c ∈ rest.head?, p c = false)
    (before : List Char) :
    joinRuns p mark (before ++ rest) = joinRuns p mark before ++ joinRuns p mark rest := by
  induction before with
  | nil => rfl
  | cons c before ih =>
    have hnext : (before ++ rest).head?.any p = before.head?.any p := by
      cases before with
      | nil =>
        cases rest with
        | nil => rfl
        | cons d rest => exact hrest d rfl
      | cons d before => rfl
    rw [List.cons_append, joinRuns, joinRuns, hnext, ih]
    split
    · split <;> rfl
    · rfl

theorem joinRuns_of_run {run : List Char} (hne : run ≠ []) (hrun : ∀ c ∈ run, p c = true) :
    joinRuns p mark run = [mark] := by
  induction run with
  | nil => exact absurd rfl hne
  | cons c run ih =>
    obtain ⟨hc, hrun⟩ := List.forall_mem_cons.mp hrun
    rw [joinRuns, if_pos hc]
    cases run with
    | nil => rfl
    | cons d run =>
      have hgoes : (d :: run).head?.any p = true := hrun d List.mem_cons_self
      rw [if_pos hgoes, ih (List.cons_ne_nil d run) hrun]

theorem eq_mark_of_mem_joinRuns (h : ∀ c ∈ cs, p c = true) :
    ∀ c ∈ joinRuns p mark cs, c = mark := by
  by_cases hne : cs = []
  · subst hne
    exact List.forall_mem_nil _
  · rw [joinRuns_of_run hne h]
    exact List.forall_mem_singleton.mpr rfl

/-- A run of the class stays as it is where the others are joined, and parts them. -/
theorem joinRuns_around_run {others run : List Char} (hne : run ≠ [])
    (hrun : ∀ c ∈ run, p c = true) (rest : List Char) :
    joinRuns (fun c => !p c) mark (others ++ (run ++ rest)) =
      joinRuns (fun c => !p c) mark others ++ (run ++ joinRuns (fun c => !p c) mark rest) := by
  have hhead := head?_append_of_run hne hrun rest
  rw [joinRuns_append (fun c hc => by simp [hhead c hc]),
    joinRuns_append_of_apart (fun c hc => by simp [hrun c hc])]

/-- Marks that stand for the characters outside of a class are joined where those characters are. -/
theorem joinRuns_markOthers (hmark : p mark = false) (cs : List Char) :
    joinRuns (· == mark) mark (markOthers p mark cs) = joinRuns (fun c => !p c) mark cs := by
  have hsame : ∀ c, ((if p c then c else mark) == mark) = !p c := by
    intro c
    cases hc : p c with
    | true =>
      have hne : c ≠ mark := by
        rintro rfl
        rw [hmark] at hc
        cases hc
      simpa using hne
    | false => simp
  induction cs with
  | nil => rfl
  | cons c cs ih =>
    have hhead : (markOthers p mark cs).head?.any (· == mark) = cs.head?.any (fun c => !p c) := by
      cases cs with
      | nil => rfl
      | cons d cs => exact hsame d
    have hcons : markOthers p mark (c :: cs) =
        (if p c then c else mark) :: markOthers p mark cs := rfl
    rw [hcons, joinRuns, joinRuns, hsame, hhead, ih]
    cases hc : p c <;> simp

/-! ## The runs with marks between them -/

/-- Runs with a mark before each. -/
def afterMarks (mark : Char) (runs : List (List Char)) : List Char :=
  runs.flatMap (mark :: ·)

theorem afterMarks_cons (mark : Char) (run : List Char) (runs : List (List Char)) :
    afterMarks mark (run :: runs) = [mark] ++ (run ++ afterMarks mark runs) := rfl

theorem intercalate_cons (mark : Char) (run : List Char) (runs : List (List Char)) :
    [mark].intercalate (run :: runs) = run ++ afterMarks mark runs := by
  induction runs generalizing run with
  | nil => simp [afterMarks]
  | cons next runs ih =>
    rw [List.intercalate_cons_cons, ih, List.append_assoc]
    rfl

theorem forall_mem_intercalate {P : Char → Prop} {sep : List Char} {parts : List (List Char)}
    (hsep : ∀ c ∈ sep, P c) (hparts : ∀ part ∈ parts, ∀ c ∈ part, P c) :
    ∀ c ∈ sep.intercalate parts, P c := by
  induction parts with
  | nil => simp [List.intercalate]
  | cons part parts ih =>
    obtain ⟨hpart, hparts⟩ := List.forall_mem_cons.mp hparts
    cases parts with
    | nil => rwa [List.intercalate_singleton]
    | cons next parts =>
      rw [List.intercalate_cons_cons]
      exact List.forall_mem_append.mpr ⟨List.forall_mem_append.mpr ⟨hpart, hsep⟩, ih hparts⟩

theorem getLast?_append_afterMarks (mark : Char) {run : List Char}
    (hrun : run ≠ [] ∧ ∀ c ∈ run, p c = true)
    (hruns : ∀ run ∈ runs, run ≠ [] ∧ ∀ c ∈ run, p c = true) :
    ∀ c ∈ (run ++ afterMarks mark runs).getLast?, p c = true := by
  induction runs generalizing run with
  | nil =>
    intro c hc
    rw [afterMarks, List.flatMap_nil, List.append_nil] at hc
    exact hrun.2 c (List.mem_of_mem_getLast? hc)
  | cons next runs ih =>
    obtain ⟨hnext, hruns⟩ := List.forall_mem_cons.mp hruns
    have hne : next ++ afterMarks mark runs ≠ [] := List.append_ne_nil_of_left_ne_nil hnext.1 _
    rw [afterMarks_cons, ← List.append_assoc, List.getLast?_append_of_ne_nil _ hne]
    exact ih hnext hruns

namespace IsRuns

/-- Where a text begins outside the class, each run comes after a mark. -/
theorem joinRuns_eq (mark : Char) (h : IsRuns p cs runs) (hhead : ∀ c ∈ cs.head?, p c = false) :
    ∃ after, (∀ c ∈ after, c = mark) ∧
      joinRuns (fun c => !p c) mark cs = afterMarks mark runs ++ after := by
  induction h with
  | @none others hothers =>
    exact ⟨_, eq_mark_of_mem_joinRuns fun c hc => by simp [hothers c hc], rfl⟩
  | @cons others run rest runs hothers hne hrun hend hrest ih =>
    obtain ⟨after, hafter, hjoined⟩ := ih hend
    have hothersne : others ≠ [] := by
      rintro rfl
      obtain ⟨c, run, rfl⟩ := List.exists_cons_of_ne_nil hne
      have hfalse := hhead c rfl
      rw [hrun c List.mem_cons_self] at hfalse
      cases hfalse
    refine ⟨after, hafter, ?_⟩
    rw [joinRuns_around_run hne hrun,
      joinRuns_of_run hothersne (fun c hc => by simp [hothers c hc]), hjoined, afterMarks_cons,
      List.append_assoc, List.append_assoc]

/-- What is left of a text between the marks at its ends are its runs with a mark between each
two. -/
theorem stripWhere_joinRuns (hmark : p mark = false) (h : IsRuns p cs runs) :
    stripWhere (· == mark) (joinRuns (· == mark) mark (markOthers p mark cs)) =
      [mark].intercalate runs := by
  have hapart : ∀ c, p c = true → (c == mark) = false := by
    intro c hc
    refine beq_eq_false_iff_ne.mpr ?_
    rintro rfl
    rw [hmark] at hc
    cases hc
  rw [joinRuns_markOthers hmark]
  cases h with
  | none hothers =>
    refine stripWhere_eq_nil_iff.mpr fun c hc => ?_
    simpa using eq_mark_of_mem_joinRuns (fun c hc => by simp [hothers c hc]) c hc
  | @cons others run rest runs hothers hne hrun hend hrest =>
    obtain ⟨after, hafter, hjoined⟩ := hrest.joinRuns_eq mark hend
    have hlast := getLast?_append_afterMarks mark ⟨hne, hrun⟩ hrest.forall_run
    rw [joinRuns_around_run hne hrun, hjoined, intercalate_cons, ← List.append_assoc run]
    refine stripWhere_between (fun c hc => ?_) (fun c hc => ?_) (fun c hc => ?_) (fun c hc => ?_)
    · simpa using eq_mark_of_mem_joinRuns (fun c hc => by simp [hothers c hc]) c hc
    · simpa using hafter c hc
    · exact hapart c (head?_append_of_run hne hrun _ c hc)
    · exact hapart c (hlast c hc)

end IsRuns

theorem isRuns_afterMarks (hmark : p mark = false)
    (hruns : ∀ run ∈ runs, run ≠ [] ∧ ∀ c ∈ run, p c = true) :
    IsRuns p (afterMarks mark runs) runs ∧ ∀ c ∈ (afterMarks mark runs).head?, p c = false := by
  induction runs with
  | nil => exact ⟨.none (List.forall_mem_nil _), by simp [afterMarks]⟩
  | cons run runs ih =>
    obtain ⟨hrun, hruns⟩ := List.forall_mem_cons.mp hruns
    obtain ⟨hrest, hend⟩ := ih hruns
    refine ⟨.cons (List.forall_mem_singleton.mpr hmark) hrun.1 hrun.2 hend hrest, fun c hc => ?_⟩
    obtain rfl := Option.some.inj hc
    exact hmark

/-- Runs with a mark between each two are the runs of that text. -/
theorem isRuns_intercalate (hmark : p mark = false)
    (hruns : ∀ run ∈ runs, run ≠ [] ∧ ∀ c ∈ run, p c = true) :
    IsRuns p ([mark].intercalate runs) runs := by
  cases runs with
  | nil => exact .none (List.forall_mem_nil _)
  | cons run runs =>
    obtain ⟨hrun, hruns⟩ := List.forall_mem_cons.mp hruns
    obtain ⟨hrest, hend⟩ := isRuns_afterMarks hmark hruns
    rw [intercalate_cons]
    exact .cons (List.forall_mem_nil _) hrun.1 hrun.2 hend hrest

end Formwork.Text
