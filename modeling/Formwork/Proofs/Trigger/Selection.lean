import Formwork.Proofs.Trigger.Retrieval

/-!
# Finding selections

A search for a selection begins at the first word `select` and goes on to the next word `into`. At a
selection this is its own. At a cursor it is that of the next selection, which is taken with the
cursor and lost; so a selection is found exactly where no cursor stands directly before it.
-/
namespace Formwork.Trigger

open Text.Match

/-- The selections that are found. `behind` is whether a cursor stands before the first
statement. -/
def exposed (behind : Bool) : List Retrieval → List Retrieval
  | [] => []
  | r :: rs =>
    if r.isCursor then exposed true rs
    else if behind then exposed false rs
    else r :: exposed false rs

/-! ## Reading a selection -/

/-- What is read behind the word `into`. -/
def intoTable (columns : List Char) : Rest ((List Char × List Char) × List Char) :=
  gap fun _ => blanks1 <| letters ReservedWord.fromWord.letters <| blanks1 <| name fun table =>
    found (columns, table)

/-- What is read behind the word `select` of a selection. -/
def selectionQuery : Rest ((List Char × List Char) × List Char) :=
  gap fun columns => blanks1 <| letters ReservedWord.into.letters <| blanks1 <| intoTable columns

theorem selectionMatch_eq (before : Option Char) : selectionMatch before =
    (wordEdge before <| letters ReservedWord.select.letters <| blanks1 selectionQuery) := rfl

theorem readsWord_selectionMatch (before : Option Char) : ReadsWord (selectionMatch before) :=
  (readsWord_letters ReservedWord.select.letters_ne_nil
    ReservedWord.select.isKeyChar_letters _).wordEdge before

variable {r : Retrieval} {rest : List Char}

/-- The table is the name behind the next word `from`. -/
theorem intoTable_text (r : Retrieval) (block item : Identifier) (columns : List Char)
    (hrest : ∀ c ∈ rest.head?, Text.isWordChar c = false) :
    intoTable columns (':' :: (block.list ++ '.' :: item.list) ++ (r.fromGap.list ++
      (r.fromWord.list ++ (r.tableGap.list ++ (r.table.list ++ rest))))) =
      some ((columns, r.table.list), rest) := by
  have hitem : ∀ c ∈ ':' :: (block.list ++ '.' :: item.list), Text.isBlank c = false := by
    rw [List.forall_mem_cons, List.forall_mem_append, List.forall_mem_cons]
    exact ⟨by decide, fun c hc => Text.isBlank_of_isWordChar (block.all c hc), by decide,
      fun c hc => Text.isBlank_of_isWordChar (item.all c hc)⟩
  unfold intoTable gap
  rw [few_append (by simp)]
  · apply few_of_isSome
    apply blanks1_gap _ (startsWord_spelling _ _).head_ne_blank
    rw [letters_spelling]
    apply blanks1_gap _ (startsWord_identifier _ _).head_ne_blank
    exact name_of_some r.table hrest rfl
  · intro t hne ht
    obtain ⟨c, t, rfl⟩ := List.exists_cons_of_ne_nil hne
    rw [List.cons_append, blanks1, many1, if_neg]
    simp [hitem c (ht.subset List.mem_cons_self)]

/-- Words before the word `into` of a selection are taken for columns. -/
theorem selectionQuery_text (hr : r.isCursor = false) {ls : List Lexeme}
    (hls : ∀ l ∈ ls, ¬ Spells ReservedWord.into.letters l.word.list)
    (hrest : ∀ c ∈ rest.head?, Text.isWordChar c = false) :
    selectionQuery (spread ls ++ (r.columns.last.list ++ (r.target ++ (r.fromGap.list ++
      (r.fromWord.list ++ (r.tableGap.list ++ (r.table.list ++ rest))))))) =
      some ((spread ls ++ r.columns.last.list, r.table.list), rest) := by
  obtain ⟨t, hrole⟩ := r.exists_target hr
  have htarget : r.target = t.text := by rw [Retrieval.target, hrole]
  have htable := intoTable_text r t.block t.item (spread ls ++ r.columns.last.list) hrest
  rw [htarget, Target.text]
  simp only [List.append_assoc, List.cons_append] at htable ⊢
  apply gap_until (w := .into) (fun _ => stopsWord_blanks1 _) hls
  apply blanks1_gap t.intoGap _ htable
  simp
  decide

/-- A word `select` is the start of a selection if no character of a word stands before it. -/
theorem selectionMatch_of_query {before : Option Char} {a : (List Char × List Char) × List Char}
    (hbefore : ∀ c ∈ before, Text.isWordChar c = false) (s : Spelling .select) (g : Gap)
    (hrest : StartsWord rest) (h : selectionQuery rest = some a) :
    selectionMatch before (s.list ++ (g.list ++ rest)) = some a := by
  have hedge : isWordEdge before (s.list ++ (g.list ++ rest)) = true := by
    obtain ⟨c, cs, hcons, hc⟩ := startsWord_spelling s (g.list ++ rest)
    rw [isWordEdge, hcons, List.head?_cons, Option.any_some, hc]
    cases before with
    | none => rfl
    | some d =>
      rw [Option.any_some, hbefore d rfl]
      rfl
  rw [selectionMatch_eq, wordEdge, if_pos hedge, letters_spelling]
  exact blanks1_gap g hrest.head_ne_blank h

/-- Without a word `into` ahead no selection is read. -/
theorem selectionMatch_of_no_into {ls : List Lexeme} {t : List Char}
    (hls : ∀ l ∈ ls, ¬ Spells ReservedWord.into.letters l.word.list) (ht : t <:+ spread ls)
    (before : Option Char) : selectionMatch before t = none := by
  by_contra hread
  rw [selectionMatch_eq, wordEdge] at hread
  split at hread
  · obtain ⟨run, rest, rfl, -, hread⟩ := letters_isSome.mp (Option.isSome_iff_ne_none.mpr hread)
    obtain ⟨run', rest, rfl, -, -, hread⟩ := many1_isSome.mp hread
    obtain ⟨columns, rest, rfl, hinto⟩ := exists_of_few hread
    have hrest : rest <:+ spread ls :=
      List.IsSuffix.trans ⟨run ++ run' ++ columns, by simp⟩ ht
    have hne : rest ≠ [] := by
      rintro rfl
      cases hinto
    have hnone : blanks1 (letters ReservedWord.into.letters (blanks1 (intoTable columns)))
        (rest ++ []) = none :=
      blanks1_letters_eq_none ReservedWord.into.isKeyChar_letters
        ReservedWord.into.letters_ne_nil (stopsWord_blanks1 _) (Or.inl rfl) hls rfl hrest hne
    rw [List.append_nil] at hnone
    rw [hnone] at hinto
    cases hinto
  · exact hread rfl

/-! ## What stands before a selection -/

/-- Read the opening of a cursor up to the end of a text. -/
def cursorOpening : Rest (Unit × List Char) :=
  letters ReservedWord.cursor.letters <| blanks1 <| name fun _ => blanks1 <|
    letters ReservedWord.isWord.letters <| blanks <| atEnd <| found ()

theorem endsInCursor_eq (before : List Char) : endsInCursor before =
    (findAll (fun _ => cursorOpening) before).head?.isSome := rfl

theorem cursorOpening_text (o : Opening) : cursorOpening o.text = some ((), []) := by
  have hend : blanks (atEnd (found ())) (o.isGap.list ++ []) = some ((), []) :=
    many_append o.isGap.list o.isGap.all (by simp) rfl
  rw [List.append_nil] at hend
  rw [cursorOpening, Opening.text, letters_spelling]
  apply blanks1_gap _ (startsWord_identifier _ _).head_ne_blank
  rw [name_identifier (fun _ => stopsWord_blanks1 _) _ (head_gap _ _)]
  apply blanks1_gap _ (startsWord_spelling _ _).head_ne_blank
  rw [letters_spelling, hend]

/-- The query of a cursor stands behind its opening. -/
theorem endsInCursor_opening (hr : r.isCursor = true) (prior : List Char) :
    endsInCursor (prior ++ r.opening) = true := by
  obtain ⟨o, hrole⟩ := r.exists_opening hr
  have hopening : r.opening = o.text := by rw [Retrieval.opening, hrole]
  have hne : o.text ≠ [] := by simp [Opening.text, o.cursor.ne_nil]
  rw [endsInCursor_eq, hopening, Option.isSome_iff_ne_none, ne_eq, List.head?_eq_none_iff]
  exact findFrom_ne_nil (cursorOpening_text o) (List.length_pos_of_ne_nil hne)

/-- The last sign of a text, but for blanks, is not one of a word. -/
def Settled (cs : List Char) : Prop :=
  ∀ front c gap, cs = front ++ c :: gap → (∀ d ∈ gap, Text.isBlank d = true) →
    Text.isWordChar c = false

theorem settled_blanks {cs : List Char} (h : ∀ c ∈ cs, Text.isBlank c = true) : Settled cs := by
  intro front c gap hsplit _
  exact Text.isWordChar_of_isBlank (h c (by simp [hsplit]))

theorem settled_semicolon (front : List Char) {gap : List Char}
    (hgap : ∀ d ∈ gap, Text.isBlank d = true) : Settled (front ++ ';' :: gap) := by
  intro front' c gap' hsplit hgap'
  by_contra hword
  have hc : Text.isBlank c = false := Text.isBlank_of_isWordChar (Bool.not_eq_false _ ▸ hword)
  have hreverse := congrArg List.reverse hsplit
  simp only [List.reverse_append, List.reverse_cons, List.append_assoc, List.singleton_append]
    at hreverse
  obtain ⟨-, rfl, -⟩ := Text.span_unique (by simpa using hgap) (by simpa using hgap')
    (by decide) hc hreverse
  exact hword (by decide)

/-- The opening of a cursor ends with a character of a word. -/
theorem endsInCursor_of_settled {cs : List Char} (h : Settled cs) : endsInCursor cs = false := by
  have hnone : findAll (fun _ => cursorOpening) cs = [] := by
    rw [findAll, ← List.append_nil cs, findFrom_skip ?_, findFrom_nil]
    intro t hne ht
    by_contra hread
    rw [List.append_nil] at hread
    obtain ⟨run, rest, rfl, -, hread⟩ :=
      letters_isSome.mp (Option.isSome_iff_ne_none.mpr hread)
    obtain ⟨gap, rest, rfl, -, -, hread⟩ := many1_isSome.mp hread
    obtain ⟨called, rest, rfl, -, -, hread⟩ := many1_isSome.mp hread
    obtain ⟨gap', rest, rfl, -, -, hread⟩ := many1_isSome.mp hread
    obtain ⟨isRun, rest, rfl, hspells, hread⟩ := letters_isSome.mp hread
    obtain ⟨last, rest, rfl, hlast, hread⟩ := many_isSome.mp hread
    have hrest : rest = [] := by
      cases rest with
      | nil => rfl
      | cons c rest => cases hread
    obtain ⟨init, c, rfl, hc⟩ := @Spells.concat ['i'] _ 's' hspells
    obtain ⟨front, rfl⟩ := ht
    have hword := h (front ++ (run ++ (gap ++ (called ++ (gap' ++ init))))) c last
      (by simp [hrest]) hlast
    rw [Text.isWordChar_of_sameLetter (by decide) hc] at hword
    cases hword
  rw [endsInCursor_eq, hnone]
  rfl

/-! ## Scanning a program -/

theorem exposed_sublist (behind : Bool) (rs : List Retrieval) :
    (exposed behind rs).Sublist (rs.filter (fun r => !r.isCursor)) := by
  induction rs generalizing behind with
  | nil => exact List.Sublist.slnil
  | cons r rs ih =>
    cases hr : r.isCursor with
    | true =>
      rw [exposed, if_pos hr, List.filter_cons_of_neg (by simp [hr])]
      exact ih true
    | false =>
      rw [exposed, if_neg (by simp [hr]), List.filter_cons_of_pos (by simp [hr])]
      split
      · exact (ih false).cons r
      · exact (ih false).cons_cons r

/-- Behind a cursor no selection is lost only if there is none. -/
theorem exposed_true_eq_iff {rs : List Retrieval} :
    exposed true rs = rs.filter (fun r => !r.isCursor) ↔ ∀ r ∈ rs, r.isCursor = true := by
  induction rs with
  | nil => simp [exposed]
  | cons r rs ih =>
    rw [List.forall_mem_cons]
    cases hr : r.isCursor with
    | true => rw [exposed, if_pos hr, List.filter_cons_of_neg (by simp [hr]), ih, eq_self, true_and]
    | false =>
      rw [exposed, if_neg (by simp [hr]), if_pos rfl, List.filter_cons_of_pos (by simp [hr])]
      constructor
      · intro heq
        have hshort := (exposed_sublist false rs).length_le
        rw [heq, List.length_cons] at hshort
        omega
      · rintro ⟨hcursor, -⟩
        cases hcursor

/-- No selection is lost exactly where every selection stands before every cursor. -/
theorem exposed_false_eq_iff {rs : List Retrieval} :
    exposed false rs = rs.filter (fun r => !r.isCursor) ↔
      rs.Pairwise (fun r s => r.isCursor = true → s.isCursor = true) := by
  induction rs with
  | nil => simp [exposed]
  | cons r rs ih =>
    rw [List.pairwise_cons]
    cases hr : r.isCursor with
    | true =>
      rw [exposed, if_pos hr, List.filter_cons_of_neg (by simp [hr]), exposed_true_eq_iff]
      constructor
      · intro hall
        exact ⟨fun s hs _ => hall s hs,
          List.pairwise_of_forall_mem_list fun s _ t ht _ => hall t ht⟩
      · exact fun h s hs => h.1 s hs rfl
    | false =>
      rw [exposed, if_neg (by simp [hr]), if_neg Bool.false_ne_true,
        List.filter_cons_of_pos (by simp [hr]), List.cons_inj_right, ih]
      simp

theorem exposed_of_cursors (behind : Bool) {rs : List Retrieval}
    (h : ∀ r ∈ rs, r.isCursor = true) : exposed behind rs = [] := by
  induction rs generalizing behind with
  | nil => rfl
  | cons r rs ih =>
    obtain ⟨hr, hrs⟩ := List.forall_mem_cons.mp h
    rw [exposed, if_pos hr, ih true hrs]

/-- Directly behind a cursor a selection is lost. -/
theorem exposed_behind {cs rs : List Retrieval} (hcs : ∀ c ∈ cs, c.isCursor = true)
    (hr : r.isCursor = false) : exposed true (cs ++ r :: rs) = exposed false rs := by
  induction cs with
  | nil => simp [exposed, hr]
  | cons c cs ih =>
    obtain ⟨hc, hcs⟩ := List.forall_mem_cons.mp hcs
    rw [List.cons_append, exposed, if_pos hc, ih hcs]

/-- A program is a number of cursors and a selection, over and over, and then cursors. -/
theorem retrievals_induction {P : List Retrieval → Prop}
    (ends : ∀ cs, (∀ c ∈ cs, c.isCursor = true) → P cs)
    (step : ∀ cs r rs, (∀ c ∈ cs, c.isCursor = true) → r.isCursor = false → P rs →
      P (cs ++ r :: rs)) (rs : List Retrieval) : P rs := by
  have hbehind : ∀ rs cs, (∀ c ∈ cs, c.isCursor = true) → P (cs ++ rs) := by
    intro rs
    induction rs with
    | nil =>
      intro cs hcs
      rw [List.append_nil]
      exact ends cs hcs
    | cons r rs ih =>
      intro cs hcs
      cases hr : r.isCursor with
      | true =>
        have h := ih (cs ++ [r]) (List.forall_mem_append.mpr ⟨hcs, by simpa using hr⟩)
        rwa [List.append_assoc] at h
      | false => exact step cs r rs hcs hr (ih [] (List.forall_mem_nil _))
  exact hbehind rs [] (List.forall_mem_nil _)

theorem not_into_of_cursor {c : Retrieval} (hc : c.isCursor = true) :
    ∀ l ∈ c.words, ¬ Spells ReservedWord.into.letters l.word.list := by
  intro l hl hspells
  rcases Retrieval.eq_of_spells_words hl hspells with h | ⟨-, h⟩
  · cases h
  · rw [hc] at h
    cases h

theorem not_into_of_cursors {cs : List Retrieval} (hcs : ∀ c ∈ cs, c.isCursor = true) :
    ∀ l ∈ cs.flatMap Retrieval.lexemes, ¬ Spells ReservedWord.into.letters l.word.list := by
  intro l hl hspells
  obtain ⟨c, hc, hl⟩ := List.mem_flatMap.mp hl
  rw [Retrieval.lexemes, List.mem_append, List.mem_cons] at hl
  rcases hl with hl | rfl | hl
  · rcases Retrieval.eq_of_spells_openingWords hl hspells with h | h <;> cases h
  · cases ReservedWord.eq_of_spells hspells c.select.spells
  · exact not_into_of_cursor (hcs c hc) l hl hspells

/-- Where only cursors follow no selection is found. -/
theorem findFrom_cursors {cs : List Retrieval} (hcs : ∀ c ∈ cs, c.isCursor = true) (offset : Nat)
    (before : Option Char) :
    findFrom selectionMatch offset before (cs.flatMap Retrieval.text) = [] := by
  rw [← Retrieval.spread_flatMap_lexemes, ← List.append_nil (spread _), findFrom_pass, findFrom]
  intro front t hsplit _
  rw [List.append_nil]
  exact selectionMatch_of_no_into (not_into_of_cursors hcs) ⟨front, hsplit.symm⟩ _

variable {before : Option Char}

theorem selectionMatch_selection (hr : r.isCursor = false)
    (hbefore : ∀ c ∈ before, Text.isWordChar c = false)
    (hrest : ∀ c ∈ rest.head?, Text.isWordChar c = false) :
    selectionMatch before (r.query ++ rest) = some ((r.columns.text, r.table.list), rest) := by
  have hquery := selectionQuery_text hr (r.columns.plain .into) hrest
  have hbody : selectionQuery (r.body ++ rest) = some ((r.columns.text, r.table.list), rest) := by
    rw [Retrieval.body, r.columns.text_eq_spread]
    simp only [List.append_assoc]
    exact hquery
  rw [Retrieval.query, List.append_assoc, List.append_assoc]
  exact selectionMatch_of_query hbefore r.select r.selectGap (startsWord_body r rest) hbody

/-- From a cursor to the table of the next selection, cursors between them included. -/
def swallowed (c : Retrieval) (cs : List Retrieval) (r : Retrieval) : List Char :=
  c.query ++ (';' :: c.after.list ++ (cs.flatMap Retrieval.text ++ r.query))

theorem selectionMatch_swallowed {c : Retrieval} {cs : List Retrieval} (hc : c.isCursor = true)
    (hcs : ∀ c ∈ cs, c.isCursor = true) (hr : r.isCursor = false)
    (hbefore : ∀ c ∈ before, Text.isWordChar c = false)
    (hrest : ∀ c ∈ rest.head?, Text.isWordChar c = false) :
    ∃ a, selectionMatch before (swallowed c cs r ++ rest) = some (a, rest) := by
  have hls : ∀ l ∈ c.words ++ (cs.flatMap Retrieval.lexemes ++
      r.select.lexeme (blankSep r.selectGap) :: r.columns.init.map Column.lexeme),
      ¬ Spells ReservedWord.into.letters l.word.list := by
    rw [List.forall_mem_append, List.forall_mem_append, List.forall_mem_cons]
    refine ⟨not_into_of_cursor hc, not_into_of_cursors hcs, fun h => ?_, r.columns.plain .into⟩
    cases ReservedWord.eq_of_spells h r.select.spells
  have hquery := selectionQuery_text hr hls hrest
  rw [spread_append, spread_append, spread_cons, Retrieval.spread_words,
    Retrieval.spread_flatMap_lexemes] at hquery
  have hsplit : swallowed c cs r ++ rest = c.select.list ++ (c.selectGap.list ++
      (c.body ++ (';' :: c.after.list ++ (cs.flatMap Retrieval.text ++ (r.query ++ rest))))) := by
    simp only [swallowed, Retrieval.query, List.append_assoc]
  have hbody : c.body ++ (';' :: c.after.list ++ (cs.flatMap Retrieval.text ++ (r.query ++ rest))) =
      c.body ++ ';' :: c.after.list ++ (cs.flatMap Retrieval.text ++
        ((r.select.lexeme (blankSep r.selectGap)).word.list ++
          ((r.select.lexeme (blankSep r.selectGap)).sep.list ++
            spread (r.columns.init.map Column.lexeme)))) ++
        (r.columns.last.list ++ (r.target ++ (r.fromGap.list ++ (r.fromWord.list ++
          (r.tableGap.list ++ (r.table.list ++ rest)))))) := by
    simp only [Retrieval.query, Retrieval.body, r.columns.text_eq_spread, Spelling.lexeme, blankSep,
      List.append_assoc]
  rw [← hbody] at hquery
  rw [hsplit]
  exact ⟨_, selectionMatch_of_query hbefore c.select c.selectGap (startsWord_body c _) hquery⟩

/-- Between words no selection begins. -/
theorem findFrom_selection_outer {run : List Char} (hrun : ∀ c ∈ run, Text.isWordChar c = false)
    (offset : Nat) (before : Option Char) (rest : List Char) :
    findFrom selectionMatch offset before (run ++ rest) =
      findFrom selectionMatch (offset + run.length) (run.getLast?.or before) rest :=
  findFrom_pass (fun front _ hsplit hne => (readsWord_selectionMatch _).eq_none hrun hne
    ⟨front, hsplit.symm⟩ _) offset

/-- No selection begins in the opening of a cursor. -/
theorem findFrom_selection_opening (c : Retrieval) (offset : Nat) (before : Option Char)
    (rest : List Char) : findFrom selectionMatch offset before (c.opening ++ rest) =
      findFrom selectionMatch (offset + c.opening.length) (c.opening.getLast?.or before) rest := by
  rw [← c.spread_openingWords]
  refine findFrom_pass (fun front t hsplit hne => ?_) offset
  refine wordEdge_letters_eq_none ReservedWord.select.isKeyChar_letters
    ReservedWord.select.letters_ne_nil (stopsWord_blanks1 _) (fun l hl hspells => ?_) hsplit hne
    before rest
  rcases Retrieval.eq_of_spells_openingWords hl hspells with h | h <;> cases h

/-- No character of a word stands before the query of a cursor. -/
theorem isWordChar_before_query {c : Retrieval} (hc : c.isCursor = true) (before : Option Char) :
    ∀ d ∈ c.opening.getLast?.or before, Text.isWordChar d = false := by
  obtain ⟨o, hrole⟩ := c.exists_opening hc
  have hsplit : c.opening = (o.cursor.list ++ (o.cursorGap.list ++ (o.name.list ++
      (o.nameGap.list ++ o.isWord.list)))) ++ o.isGap.list := by
    rw [Retrieval.opening, hrole]
    simp only [Opening.text, List.append_assoc]
  obtain ⟨d, hd⟩ := Option.isSome_iff_exists.mp (List.getLast?_isSome.mpr o.isGap.ne_nil)
  rw [hsplit, List.getLast?_append_of_ne_nil _ o.isGap.ne_nil, hd]
  intro e he
  obtain rfl : d = e := Option.some.inj he
  exact Text.isWordChar_of_isBlank (o.isGap.all d (List.mem_of_getLast? hd))

/-- **What is found.** The selections of a program that are found are the exposed ones. -/
theorem map_findFrom_selectionMatch (rs : List Retrieval) {body prior run : List Char}
    (hbody : body = prior ++ (run ++ rs.flatMap Retrieval.text))
    (hrun : ∀ c ∈ run, Text.isWordChar c = false)
    (hedge : ∀ c ∈ run.getLast?.or before, Text.isWordChar c = false)
    (hsettled : Settled (prior ++ run)) :
    ((findFrom selectionMatch prior.length before (run ++ rs.flatMap Retrieval.text)).filter
      (fun m => !endsInCursor (body.take m.start))).map (fun m => (m.value, m.covered)) =
      (exposed false rs).map (fun r => ((r.columns.text, r.table.list), r.query)) := by
  induction rs using retrievals_induction generalizing prior run before with
  | ends cs hcs =>
    rw [findFrom_selection_outer hrun, findFrom_cursors hcs, exposed_of_cursors false hcs]
    rfl
  | step cs r rs hcs hr ih =>
    have hclose : ∀ c ∈ ';' :: r.after.list, Text.isWordChar c = false :=
      List.forall_mem_cons.mpr ⟨by decide, fun c hc =>
        Text.isWordChar_of_isBlank (r.after.all c hc)⟩
    have hrest : ∀ c ∈ (';' :: r.after.list ++ rs.flatMap Retrieval.text).head?,
        Text.isWordChar c = false := by
      simp
      decide
    have hbehind (before' : Option Char) : ∀ c ∈ (';' :: r.after.list).getLast?.or before',
        Text.isWordChar c = false := by
      intro c hc
      rw [List.getLast?_cons, Option.some_or, ← List.getLast?_cons] at hc
      exact hclose c (List.mem_of_getLast? hc)
    obtain ⟨_, hrole⟩ := r.exists_target hr
    have hopening : r.opening = [] := by rw [Retrieval.opening, hrole]
    rw [findFrom_selection_outer hrun]
    cases cs with
    | nil =>
      have hne : r.query ≠ [] := List.append_ne_nil_of_left_ne_nil r.select.ne_nil _
      have hsplit : ([] ++ r :: rs).flatMap Retrieval.text =
          r.query ++ (';' :: r.after.list ++ rs.flatMap Retrieval.text) := by
        simp [Retrieval.text, hopening]
      have hstart : body.take (prior.length + run.length) = prior ++ run := by
        rw [hbody, ← List.append_assoc, ← List.length_append]
        exact List.take_left
      have hlater := @ih (r.query.getLast?) (prior ++ run ++ r.query) (';' :: r.after.list)
        (by rw [hbody, hsplit]; simp only [List.append_assoc]) hclose (hbehind _)
        (settled_semicolon _ r.after.all)
      rw [List.length_append, List.length_append] at hlater
      rw [hsplit, findFrom_take hne (selectionMatch_selection hr hedge hrest),
        List.filter_cons_of_pos (by rw [hstart, endsInCursor_of_settled hsettled]; rfl),
        List.map_cons, hlater]
      simp [exposed, hr]
    | cons c cs =>
      obtain ⟨hc, hcs⟩ := List.forall_mem_cons.mp hcs
      have hne : swallowed c cs r ≠ [] := by simp [swallowed]
      have hsplit : (c :: cs ++ r :: rs).flatMap Retrieval.text = c.opening ++
          (swallowed c cs r ++ (';' :: r.after.list ++ rs.flatMap Retrieval.text)) := by
        simp [Retrieval.text, hopening, swallowed]
      obtain ⟨a, hread⟩ := selectionMatch_swallowed hc hcs hr
        (isWordChar_before_query hc (run.getLast?.or before)) hrest
      have hstart : body.take (prior.length + run.length + c.opening.length) =
          prior ++ run ++ c.opening := by
        rw [hbody, hsplit, ← List.append_assoc, ← List.append_assoc, ← List.length_append,
          ← List.length_append]
        exact List.take_left
      have hlater := @ih ((swallowed c cs r).getLast?)
        (prior ++ run ++ c.opening ++ swallowed c cs r) (';' :: r.after.list)
        (by rw [hbody, hsplit]; simp only [List.append_assoc]) hclose (hbehind _)
        (settled_semicolon _ r.after.all)
      rw [List.length_append, List.length_append, List.length_append] at hlater
      rw [hsplit, findFrom_selection_opening, findFrom_take hne hread,
        List.filter_cons_of_neg (by rw [hstart, endsInCursor_opening hc]; decide), hlater,
        List.cons_append, exposed, if_pos hc, exposed_behind hcs hr]

end Formwork.Trigger
