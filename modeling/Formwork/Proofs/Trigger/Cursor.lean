import Formwork.Proofs.Trigger.Retrieval

/-!
# Finding cursors

A cursor is taken whole, and no cursor begins elsewhere: three words of a statement would have to
stand before its word `select`, with nothing but blanks between them.
-/
namespace Formwork.Trigger

open Text.Match

/-- What is read behind the word `select` of a cursor. -/
def cursorQuery : Rest ((List Char × List Char) × List Char) :=
  gap fun columns => blanks1 <| word "from" <| blanks1 <| gap fun tail =>
    fun cs => sign ';' (found (columns, tail)) cs <|> atEnd (found (columns, tail)) cs

theorem cursorMatch_eq : cursorMatch = (letters ReservedWord.cursor.letters <| blanks1 <|
    name fun _ => blanks1 <| letters ReservedWord.isWord.letters <| blanks1 <|
      letters ReservedWord.select.letters <| blanks1 cursorQuery) := rfl

theorem readsWord_cursorMatch : ReadsWord cursorMatch :=
  readsWord_letters ReservedWord.cursor.letters_ne_nil ReservedWord.cursor.isKeyChar_letters _

/-- The query of a cursor is read up to its semicolon. -/
theorem cursorQuery_text {r : Retrieval} (hr : r.isCursor = true) (rest : List Char) :
    cursorQuery (r.body ++ ';' :: rest) = some ((r.columns.text, r.table.list), rest) := by
  obtain ⟨o, hrole⟩ := r.exists_opening hr
  have htarget : r.target = [] := by rw [Retrieval.target, hrole]
  have htable : gap (fun tail => fun cs => sign ';' (found (r.columns.text, tail)) cs <|>
      atEnd (found (r.columns.text, tail)) cs) (r.table.list ++ ';' :: rest) =
        some ((r.columns.text, r.table.list), rest) := by
    have hpass : ∀ front t, r.table.list = front ++ t → t ≠ [] →
        (sign ';' (found (r.columns.text, front)) (t ++ ';' :: rest) <|>
          atEnd (found (r.columns.text, front)) (t ++ ';' :: rest)) = none := by
      intro front t hsplit hne
      obtain ⟨c, t, rfl⟩ := List.exists_cons_of_ne_nil hne
      have hc : (c == ';') = false := by
        have hword := r.table.all c (by simp [hsplit])
        rw [beq_eq_false_iff_ne]
        rintro rfl
        cases hword
      rw [List.cons_append, sign, one, hc]
      rfl
    rw [gap, few_pass (by simp) hpass]
    apply few_of_isSome
    rw [List.append_nil]
    rfl
  rw [Retrieval.body, htarget, List.nil_append, r.columns.text_eq_spread]
  simp only [List.append_assoc]
  apply gap_until (w := .fromWord) (fun _ => stopsWord_blanks1 _) (r.columns.plain .fromWord)
  apply blanks1_gap _ (startsWord_identifier _ _).head_ne_blank
  rw [← r.columns.text_eq_spread]
  exact htable

theorem cursorMatch_text {r : Retrieval} (hr : r.isCursor = true) (rest : List Char) :
    cursorMatch (r.opening ++ (r.query ++ ';' :: rest)) =
      some ((r.columns.text, r.table.list), rest) := by
  obtain ⟨o, hrole⟩ := r.exists_opening hr
  have hopening : r.opening = o.text := by rw [Retrieval.opening, hrole]
  rw [cursorMatch_eq, hopening, Opening.text, Retrieval.query]
  simp only [List.append_assoc]
  rw [letters_spelling]
  apply blanks1_gap _ (startsWord_identifier _ _).head_ne_blank
  rw [name_identifier (fun _ => stopsWord_blanks1 _) _ (head_gap _ _)]
  apply blanks1_gap _ (startsWord_spelling _ _).head_ne_blank
  rw [letters_spelling]
  apply blanks1_gap _ (startsWord_spelling _ _).head_ne_blank
  rw [letters_spelling]
  apply blanks1_gap _ (startsWord_body r _).head_ne_blank
  exact cursorQuery_text hr rest

/-- No cursor begins in a closed text in which the word `select` stands at the start at most. -/
theorem cursorMatch_closed {ls : List Lexeme} {t rest : List Char} (hclosed : Closed ls)
    (hselect : ∀ l ∈ ls.tail, ¬ Spells ReservedWord.select.letters l.word.list)
    (hrest : rest = [] ∨ StartsWord rest) (ht : t <:+ spread ls) (hne : t ≠ []) :
    cursorMatch (t ++ rest) = none := by
  by_contra hread
  rw [cursorMatch_eq] at hread
  have hread := Option.isSome_iff_ne_none.mpr hread
  obtain ⟨front, hfront⟩ := ht
  cases place_of_split hfront.symm hne with
  | inSep pre l post left right split sep ne_nil before behind =>
    have hnone := readsWord_cursorMatch.eq_none l.isWordChar_sep ne_nil ⟨left, sep.symm⟩
      (spread post ++ rest)
    rw [cursorMatch_eq] at hnone
    rw [behind, List.append_assoc, hnone] at hread
    cases hread
  | inWord pre l post left right split word ne_nil before behind =>
    -- Blanks lead on to a second and a third word, and to the word `select` behind them.
    rw [split] at hclosed hselect
    rw [behind, List.append_assoc, List.append_assoc] at hread
    have hread := ((letters_isSome_of_stops ReservedWord.cursor.isKeyChar_letters
      (stopsWord_blanks1 _) (fun c hc => l.word.all c (by simp [word, hc])) (l.head_sep _)).mp
        hread).2
    obtain ⟨second, ls, rfl, hsecond, hread⟩ :=
      hclosed.of_append.next (readsWord_many1 _) hrest hread
    rw [many1_of_stops (fun _ => stopsWord_blanks1 _) second.word.ne_nil second.word.all
      (second.head_sep _)] at hread
    obtain ⟨third, ls, rfl, hthird, hread⟩ := hsecond.next
      (readsWord_letters ReservedWord.isWord.letters_ne_nil ReservedWord.isWord.isKeyChar_letters _)
      hrest hread
    have hread := ((letters_spread_isSome ReservedWord.isWord.isKeyChar_letters
      (stopsWord_blanks1 _) third _).mp hread).2
    obtain ⟨last, ls, rfl, -, hread⟩ := hthird.next
      (readsWord_letters ReservedWord.select.letters_ne_nil ReservedWord.select.isKeyChar_letters _)
      hrest hread
    have hspells := ((letters_spread_isSome ReservedWord.select.isKeyChar_letters
      (stopsWord_blanks1 _) last _).mp hread).1
    refine hselect last ?_ hspells
    cases pre <;> simp

/-- The matches of cursors are the cursors of a program, in order. -/
theorem map_findFrom_cursorMatch (rs : List Retrieval) {run : List Char}
    (hrun : ∀ c ∈ run, Text.isWordChar c = false) (offset : Nat) :
    (findFrom (fun _ => cursorMatch) offset none (run ++ rs.flatMap Retrieval.text)).map
        (fun m => (m.value, m.covered)) =
      (rs.filter (·.isCursor)).map (fun r =>
        ((r.columns.text, r.table.list), r.opening ++ (r.query ++ [';']))) := by
  induction rs generalizing run offset with
  | nil =>
    rw [List.flatMap_nil, findFrom_skip, findFrom_nil]
    · rfl
    · exact fun t hne ht => readsWord_cursorMatch.eq_none hrun hne ht _
  | cons r rs ih =>
    rw [List.flatMap_cons,
      findFrom_skip fun t hne ht => readsWord_cursorMatch.eq_none hrun hne ht _]
    cases hr : r.isCursor with
    | true =>
      have hsplit : r.text ++ rs.flatMap Retrieval.text = (r.opening ++ (r.query ++ [';'])) ++
          (r.after.list ++ rs.flatMap Retrieval.text) := by
        simp only [Retrieval.text, List.append_assoc, List.cons_append, List.nil_append]
      have hmatch : cursorMatch ((r.opening ++ (r.query ++ [';'])) ++
          (r.after.list ++ rs.flatMap Retrieval.text)) =
            some ((r.columns.text, r.table.list), r.after.list ++ rs.flatMap Retrieval.text) := by
        simp only [List.append_assoc, List.cons_append, List.nil_append]
        exact cursorMatch_text hr _
      rw [hsplit, findFrom_hit (by simp) hmatch, List.filter_cons_of_pos hr, List.map_cons,
        List.map_cons, ih fun c hc => Text.isWordChar_of_isBlank (r.after.all c hc)]
    | false =>
      have hselect : ∀ l ∈ r.lexemes.tail, ¬ Spells ReservedWord.select.letters l.word.list := by
        obtain ⟨t, hrole⟩ := r.exists_target hr
        rw [Retrieval.lexemes, Retrieval.openingWords, hrole]
        intro l hl hspells
        rcases Retrieval.eq_of_spells_words hl hspells with h | ⟨h, -⟩ <;> cases h
      have hskip : ∀ t, t ≠ [] → t <:+ r.text →
          cursorMatch (t ++ rs.flatMap Retrieval.text) = none := by
        intro t hne ht
        rw [← r.spread_lexemes] at ht
        exact cursorMatch_closed r.closed_lexemes hselect (Retrieval.startsWord_flatMap rs) ht hne
      rw [findFrom_skip hskip, List.filter_cons_of_neg (by simp [hr])]
      exact ih (List.forall_mem_nil _) _

end Formwork.Trigger
