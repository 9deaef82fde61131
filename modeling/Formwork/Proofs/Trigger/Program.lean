import Formwork.Proofs.Trigger.Call
import Formwork.Proofs.Trigger.Columns
import Formwork.Proofs.Trigger.Cursor
import Formwork.Proofs.Trigger.Selection

/-!
# What is reported of a program that reads tables

A program of cursors and selections is reported as its cursors, then the selections that are found,
and then the tables that look like procedures: between the word `from` and a semicolon such a name
is read as a call. What a statement before it mentions is not reported again, so this happens only
to a table whose selection is lost.
-/
namespace Formwork.Trigger

open Text.Match
open Form (Blanks)

/-! ## Tables that are read as calls -/

/-- Whether a name is read as the call of a procedure where a semicolon follows. -/
def Identifier.isProcedure (i : Identifier) : Bool :=
  (procedure (i.list ++ [';'])).isSome

/-- A character of what stands between words, without parentheses and semicolons. -/
def isGapChar (c : Char) : Bool :=
  isArgumentChar c && !Text.isWordChar c

/-- A word that a call begins with goes up to the blanks before its parenthesis or semicolon. -/
theorem procedure_word {word rest : List Char} {d : Char}
    (hword : ∀ c ∈ word, Text.isWordChar c = true) (hd : Text.isWordChar d = false)
    (h : (procedure (word ++ d :: rest)).isSome = true) :
    (∃ n : ProcedureName, n.text = word ∧ n.tail.list ≠ []) ∧
      ∃ gap c after, d :: rest = gap ++ c :: after ∧ (∀ e ∈ gap, Text.isBlank e = true) ∧
        (c = '(' ∨ c = ';') := by
  obtain ⟨head, tail, after, called, hsplit, hhead, hne, htail, hend⟩ := procedure_isSome h
  obtain ⟨gap, c, after, rfl, hgap, hc⟩ := callEnd_isSome hend
  have hname : ∀ e ∈ head ++ tail, Text.isWordChar e = true :=
    List.forall_mem_append.mpr ⟨hhead.isWordChar, htail⟩
  have hstop : ∃ e es, gap ++ c :: after = e :: es ∧ Text.isWordChar e = false := by
    cases gap with
    | nil => exact ⟨c, after, rfl, by rcases hc with rfl | rfl <;> decide⟩
    | cons b gap => exact ⟨b, _, rfl, Text.isWordChar_of_isBlank (hgap b List.mem_cons_self)⟩
  obtain ⟨e, es, hcons, he⟩ := hstop
  rw [hcons, ← List.append_assoc] at hsplit
  obtain ⟨rfl, rfl, rfl⟩ := Text.span_unique hword hname hd he hsplit
  exact ⟨⟨⟨head, hhead, ⟨tail, htail⟩⟩, rfl, hne⟩, gap, c, after, hcons.symm, hgap, hc⟩

theorem Call.body_of_args {c : Call} (h : c.args = none) : c.body = c.name.text := by
  rw [body, arguments, h, Option.elim_none, List.append_nil]

/-- A name before a semicolon is read as a call exactly if it is one of a procedure and goes on
behind its start. -/
theorem procedure_identifier {i : Identifier} {rest : List Char} :
    (procedure (i.list ++ ';' :: rest)).isSome = true ↔
      ∃ n : ProcedureName, n.text = i.list ∧ n.tail.list ≠ [] := by
  constructor
  · exact fun h => (procedure_word i.all (by decide) h).1
  · rintro ⟨n, hname, hne⟩
    have hread := procedure_body ⟨noBlanks, n, none⟩ rest
    rw [Call.body_of_args rfl, hname, if_pos (by simpa [Call.isNamed] using hne)] at hread
    rw [hread]
    rfl

theorem isProcedure_iff {i : Identifier} :
    i.isProcedure = true ↔ ∃ n : ProcedureName, n.text = i.list ∧ n.tail.list ≠ [] :=
  procedure_identifier

/-- What stands behind the semicolon does not matter. -/
theorem procedure_table (i : Identifier) (rest : List Char) :
    (procedure (i.list ++ ';' :: rest)).isSome = i.isProcedure :=
  Bool.eq_iff_iff.mpr (procedure_identifier.trans isProcedure_iff.symm)

theorem exists_call {i : Identifier} (h : i.isProcedure = true) (lead : Blanks) :
    ∃ c : Call, c.lead = lead ∧ c.isNamed = true ∧ c.name.text = i.list ∧ c.args = none := by
  obtain ⟨n, hname, hne⟩ := isProcedure_iff.mp h
  exact ⟨⟨lead, n, none⟩, rfl, by simpa [Call.isNamed] using hne, hname, rfl⟩

/-- Before a word no call begins among words that no parenthesis or semicolon stands between. -/
theorem procedure_spread {ls : List Lexeme} {rest t : List Char}
    (hls : ∀ l ∈ ls, ∀ c ∈ l.sep.list, isArgumentChar c = true) (hrest : StartsWord rest)
    (ht : t <:+ spread ls) (hne : t ≠ []) : procedure (t ++ rest) = none := by
  by_contra hread
  have hread := Option.isSome_iff_ne_none.mpr hread
  obtain ⟨front, hsplit⟩ := ht
  cases place_of_split hsplit.symm hne with
  | inSep pre l post left right split sep ne_nil before behind =>
    have hnone := readsWord_procedure.eq_none l.isWordChar_sep ne_nil ⟨left, sep.symm⟩
      (spread post ++ rest)
    rw [behind, List.append_assoc, hnone] at hread
    cases hread
  | inWord pre l post left right split word ne_nil before behind =>
    obtain ⟨d, sep, hsep⟩ := List.exists_cons_of_ne_nil l.sep.ne_nil
    rw [behind, hsep, List.append_assoc, List.append_assoc, List.cons_append] at hread
    obtain ⟨-, gap, c, after, hend, hgap, hc⟩ := procedure_word
      (fun e he => l.word.all e (by simp [word, he])) (l.isWordChar_sep d (by simp [hsep])) hread
    -- Behind the signs of the text stands a word, behind the blanks of a call none.
    obtain ⟨w, ws, hcons, hw⟩ := hrest.spread_append post
    rw [hcons, ← List.cons_append, ← hsep] at hend
    have hsepGap : ∀ e ∈ l.sep.list, isGapChar e = true := fun e he => by
      simp [isGapChar, hls l (by simp [split]) e he, l.isWordChar_sep e he]
    have hgapGap : ∀ e ∈ gap, isGapChar e = true := fun e he => by
      simp [isGapChar, isArgumentChar_of_isBlank (hgap e he),
        Text.isWordChar_of_isBlank (hgap e he)]
    have hstop : isGapChar c = false := by rcases hc with rfl | rfl <;> decide
    obtain ⟨-, rfl, -⟩ := Text.span_unique hsepGap hgapGap (by simp [isGapChar, hw]) hstop hend
    rcases hc with rfl | rfl <;> cases hw

theorem isArgumentChar_blankSep (g : Gap) : ∀ c ∈ (blankSep g).list, isArgumentChar c = true :=
  fun c hc => isArgumentChar_of_isBlank (g.all c hc)

theorem isArgumentChar_signSep (before after : Blanks) {c : Char} (hc : isOuterChar c = true)
    (h : isArgumentChar c = true) :
    ∀ d ∈ (signSep before c after hc).list, isArgumentChar d = true := by
  have hblank (b : Blanks) : ∀ d ∈ b.list, isArgumentChar d = true :=
    fun d hd => isArgumentChar_of_isBlank (b.all d hd)
  exact List.forall_mem_append.mpr ⟨hblank before, List.forall_mem_cons.mpr ⟨h, hblank after⟩⟩

namespace Retrieval

/-- Neither a parenthesis nor a semicolon stands before the table of a statement. -/
theorem isArgumentChar_sep (r : Retrieval) :
    ∀ l ∈ r.frontWords, ∀ c ∈ l.sep.list, isArgumentChar c = true := by
  have hopening : ∀ l ∈ r.openingWords, ∀ c ∈ l.sep.list, isArgumentChar c = true := by
    unfold openingWords
    cases r.role with
    | cursor o =>
      show ∀ l ∈ o.lexemes, ∀ c ∈ l.sep.list, isArgumentChar c = true
      rw [Opening.lexemes, List.forall_mem_cons, List.forall_mem_cons, List.forall_mem_cons]
      exact ⟨isArgumentChar_blankSep _, isArgumentChar_blankSep _, isArgumentChar_blankSep _,
        List.forall_mem_nil _⟩
    | selection t => exact List.forall_mem_nil _
  have hcolumns : ∀ l ∈ r.columns.init.map Column.lexeme, ∀ c ∈ l.sep.list,
      isArgumentChar c = true := by
    intro l hl
    obtain ⟨c, -, rfl⟩ := List.mem_map.mp hl
    exact isArgumentChar_signSep _ _ (by decide) (by decide)
  have hmiddle : ∀ l ∈ r.middle, ∀ c ∈ l.sep.list, isArgumentChar c = true := by
    unfold middle
    cases r.role with
    | cursor o => exact List.forall_mem_singleton.mpr (isArgumentChar_blankSep _)
    | selection t =>
      rw [List.forall_mem_cons, List.forall_mem_cons, List.forall_mem_cons, List.forall_mem_cons]
      exact ⟨isArgumentChar_blankSep _, isArgumentChar_signSep _ _ (by decide) (by decide),
        isArgumentChar_signSep _ _ (by decide) (by decide), isArgumentChar_blankSep _,
        List.forall_mem_nil _⟩
  rw [frontWords, List.forall_mem_append, List.forall_mem_cons, List.forall_mem_append,
    List.forall_mem_append, List.forall_mem_singleton]
  exact ⟨hopening, isArgumentChar_blankSep _, hcolumns, hmiddle, isArgumentChar_blankSep _⟩

/-- The text of a statement up to the blanks before its table. -/
theorem text_eq (r : Retrieval) : ∃ front, front ≠ [] ∧
    spread r.frontWords = front ++ r.tableGap.list ∧
    r.text = front ++ (r.tableGap.list ++ (r.table.list ++ ';' :: r.after.list)) := by
  have hfront : spread r.frontWords = spread (r.openingWords ++
      r.select.lexeme (blankSep r.selectGap) :: (r.columns.init.map Column.lexeme ++ r.middle)) ++
        r.fromWord.list ++ r.tableGap.list := by
    simp [frontWords, spread, Lexeme.text, Spelling.lexeme, blankSep]
  refine ⟨_, ?_, hfront, ?_⟩
  · simp [r.fromWord.ne_nil]
  · rw [← spread_lexemes, lexemes_eq_concat, spread_append, hfront]
    simp [spread, closing, Identifier.lexeme, signSep, noBlanks, Lexeme.text]

/-- A statement without its semicolon has neither parentheses nor semicolons. -/
theorem isArgumentChar_query (r : Retrieval) :
    ∀ c ∈ r.opening ++ r.query, isArgumentChar c = true := by
  obtain ⟨front, -, hfront, htext⟩ := r.text_eq
  have hsplit : r.opening ++ r.query = spread r.frontWords ++ r.table.list := by
    have hclose : (r.opening ++ r.query) ++ ';' :: r.after.list =
        (spread r.frontWords ++ r.table.list) ++ ';' :: r.after.list := by
      rw [hfront, List.append_assoc, ← text, htext]
      simp only [List.append_assoc]
    exact List.append_cancel_right hclose
  rw [hsplit, List.forall_mem_append]
  refine ⟨fun c hc => ?_, fun c hc => isArgumentChar_of_isWordChar (r.table.all c hc)⟩
  obtain ⟨l, hl, hc⟩ := List.mem_flatMap.mp hc
  rcases List.mem_append.mp hc with hc | hc
  · exact isArgumentChar_of_isWordChar (l.word.all c hc)
  · exact r.isArgumentChar_sep l hl c hc

end Retrieval

variable {before : Option Char}

/-- No match of a call begins in a statement before the blanks that lead to its table. -/
theorem findFrom_call_front {r : Retrieval} {front rest : List Char}
    (hfront : spread r.frontWords = front ++ r.tableGap.list) (hrest : StartsWord rest)
    (offset : Nat) : findFrom callMatch offset before (front ++ (r.tableGap.list ++ rest)) =
      findFrom callMatch (offset + front.length) (front.getLast?.or before)
        (r.tableGap.list ++ rest) := by
  refine findFrom_pass (fun first t hsplit hne => ?_) offset
  obtain ⟨d, t, rfl⟩ := List.exists_cons_of_ne_nil hne
  have hpass (first t : List Char) (hsplit : front = first ++ t) :
      procedure (t ++ (r.tableGap.list ++ rest)) = none := by
    rw [← List.append_assoc]
    refine procedure_spread r.isArgumentChar_sep hrest ⟨first, ?_⟩ (by simp [r.tableGap.ne_nil])
    rw [hfront, hsplit, List.append_assoc]
  apply callMatch_cons
  · exact fun _ => hpass first (d :: t) hsplit
  · exact fun _ => hpass (first ++ [d]) t (by simp [hsplit])

/-- A table that is not read as a call is passed over. -/
theorem findFrom_call_table {r : Retrieval} (h : r.table.isProcedure = false) (c : Char)
    (offset : Nat) (rest : List Char) :
    findFrom callMatch offset (some c) (r.tableGap.list ++ (r.table.list ++ ';' :: rest)) =
      findFrom callMatch (offset + (r.tableGap.list ++ r.table.list).length)
        ((r.tableGap.list ++ r.table.list).getLast?.or (some c)) (';' :: rest) := by
  rw [← List.append_assoc]
  refine findFrom_pass (fun first t hsplit hne => ?_) offset
  obtain ⟨d, t, rfl⟩ := List.exists_cons_of_ne_nil hne
  apply callMatch_cons
  · intro hstart
    rw [Option.or_eq_none_iff] at hstart
    cases hstart.2
  · intro hd
    have hword := isWordChar_of_isDelimiter hd
    rcases cons_suffix_append ⟨first, hsplit.symm⟩ with ht | ⟨run, hrun, rfl⟩
    · rw [r.table.all d (ht.subset List.mem_cons_self)] at hword
      cases hword
    · cases run with
      | nil =>
        have hnone := procedure_table r.table rest
        rw [h, Option.isSome_eq_false_iff, Option.isNone_iff_eq_none] at hnone
        exact hnone
      | cons e run =>
        have he := r.tableGap.all e (hrun.subset (by simp))
        exact procedure_cons (Text.isWordChar_of_isBlank he) _

/-- **Calls in a program.** The calls that are recognised in a program of cursors and selections are
its tables that look like procedures. -/
theorem map_shown_findFrom_retrievals (rs : List Retrieval) {run : List Char}
    (hrun : ∀ c ∈ run, isDelimiter c = true) (offset : Nat) :
    (findFrom callMatch offset before (run ++ rs.flatMap Retrieval.text)).map shown =
      ((rs.map (·.table)).filter (·.isProcedure)).map (fun i => (i.list, false)) := by
  induction rs generalizing before run offset with
  | nil =>
    have hend : procedure [] = none := rfl
    rw [List.flatMap_nil, findFrom_pass fun front t hsplit hne =>
      callMatch_delimiters hrun hend hne ⟨front, hsplit.symm⟩, findFrom]
    rfl
  | cons r rs ih =>
    obtain ⟨front, hne, hfront, htext⟩ := r.text_eq
    have hsplit : (r :: rs).flatMap Retrieval.text = front ++ (r.tableGap.list ++
        (r.table.list ++ ';' :: (r.after.list ++ rs.flatMap Retrieval.text))) := by
      rw [List.flatMap_cons, htext]
      simp only [List.append_assoc, List.cons_append]
    have hstart := startsWord_identifier r.table
      (';' :: (r.after.list ++ rs.flatMap Retrieval.text))
    have hnone : procedure ((r :: rs).flatMap Retrieval.text) = none := by
      have h := procedure_spread r.isArgumentChar_sep hstart List.suffix_rfl (by simp [hfront, hne])
      rwa [hfront, List.append_assoc, ← hsplit] at h
    obtain ⟨c, hc⟩ := Option.isSome_iff_exists.mp (List.getLast?_isSome.mpr hne)
    have hafter : ∀ d ∈ r.after.list, isDelimiter d = true := fun d hd => by
      rw [isDelimiter, r.after.all d hd, Bool.or_true]
    rw [findFrom_pass fun front t hsplit hne =>
      callMatch_delimiters hrun hnone hne ⟨front, hsplit.symm⟩, hsplit,
      findFrom_call_front hfront hstart, hc, Option.some_or]
    cases hproc : r.table.isProcedure with
    | true =>
      obtain ⟨call, hlead, hnamed, hname, hargs⟩ := exists_call hproc r.tableGap.toChars
      obtain ⟨m, offset', hfind, hshown⟩ := findFrom_heard (.taken c) call
        (by simp [hnamed, hlead, r.tableGap.ne_nil]) (offset + run.length + front.length)
        (r.after.list ++ rs.flatMap Retrieval.text)
      rw [List.nil_append, hlead, Call.body_of_args hargs, hname] at hfind
      rw [hname, hargs] at hshown
      rw [hfind, List.map_cons, hshown, List.map_cons, List.filter_cons_of_pos hproc, List.map_cons]
      exact congrArg _ (ih hafter offset')
    | false =>
      rw [findFrom_call_table hproc, List.map_cons, List.filter_cons_of_neg (by simp [hproc])]
      have hrun' : ∀ d ∈ ';' :: r.after.list, isDelimiter d = true :=
        List.forall_mem_cons.mpr ⟨by decide, hafter⟩
      exact ih hrun' _

/-! ## What else is read -/

/-- What stands behind a colon goes on to a semicolon without parentheses. -/
theorem exists_semicolon {rs : List Retrieval} {t : List Char}
    (ht : ':' :: t <:+ rs.flatMap Retrieval.text) :
    ∃ run rest, t = run ++ ';' :: rest ∧ ∀ c ∈ run, isArgumentChar c = true := by
  induction rs with
  | nil => simp at ht
  | cons r rs ih =>
    have hsplit : (r :: rs).flatMap Retrieval.text =
        (r.opening ++ r.query) ++ (';' :: r.after.list ++ rs.flatMap Retrieval.text) := by
      simp [Retrieval.text]
    rw [hsplit] at ht
    rcases cons_suffix_append ht with ht | ⟨run, hrun, rfl⟩
    · rcases cons_suffix_append ht with ht | ⟨run, hrun, -⟩
      · exact ih ht
      · have hmem := hrun.subset List.mem_cons_self
        rw [List.mem_cons] at hmem
        exact absurd (r.after.all ':' (hmem.resolve_left (by decide))) (by decide)
    · exact ⟨run, r.after.list ++ rs.flatMap Retrieval.text, by simp, fun c hc =>
        r.isArgumentChar_query c (hrun.subset (List.mem_cons_of_mem _ hc))⟩

/-- The first letter of a statement is that of the word `cursor` or of the word `select`. -/
theorem Retrieval.exists_first (r : Retrieval) : ∃ c ∈ r.text.head?,
    Text.isWordChar c = true ∧ (Text.smallLetter c = 'c' ∨ Text.smallLetter c = 's') := by
  have hfirst {w : ReservedWord} (s : Spelling w) : ∃ c cs, s.list = c :: cs ∧
      Text.isWordChar c = true ∧
        some (Text.smallLetter c) = w.letters.head?.map Char.toLower := by
    obtain ⟨c, cs, hcons⟩ := List.exists_cons_of_ne_nil s.ne_nil
    have hmap := map_smallLetter_of_spells w.isSmall_letters s.spells
    refine ⟨c, cs, hcons, s.isWordChar c (by simp [hcons]), ?_⟩
    rw [← List.head?_map, ← hmap, hcons]
    rfl
  cases hr : r.isCursor with
  | true =>
    obtain ⟨o, hrole⟩ := r.exists_opening hr
    obtain ⟨c, cs, hcons, hc, hsmall⟩ := hfirst o.cursor
    refine ⟨c, ?_, hc, Or.inl (Option.some.inj hsmall)⟩
    rw [text, opening, hrole]
    simp [Opening.text, hcons]
  | false =>
    obtain ⟨t, hrole⟩ := r.exists_target hr
    obtain ⟨c, cs, hcons, hc, hsmall⟩ := hfirst r.select
    refine ⟨c, ?_, hc, Or.inr (Option.some.inj hsmall)⟩
    rw [text, opening, hrole, query, hcons]
    rfl

/-! ## The text of a statement -/

namespace Retrieval

theorem query_eq (r : Retrieval) : ∃ front, r.query = front ++ r.table.list := by
  refine ⟨r.select.list ++ (r.selectGap.list ++ (r.columns.text ++ (r.target ++ (r.fromGap.list ++
    (r.fromWord.list ++ r.tableGap.list))))), ?_⟩
  simp only [query, body, List.append_assoc]

theorem trimmed_query (r : Retrieval) : trimmed r.query = String.ofList r.query := by
  apply trimmed_eq_self
  · exact (startsWord_spelling r.select _).head_ne_blank
  · intro c hc
    obtain ⟨front, hquery⟩ := r.query_eq
    rw [hquery, List.getLast?_append_of_ne_nil _ r.table.ne_nil] at hc
    exact Text.isBlank_of_isWordChar (r.table.all c (List.mem_of_getLast? hc))

/-- A statement with its semicolon has no blanks at its ends. -/
theorem trimmed_closed (r : Retrieval) : trimmed (r.opening ++ (r.query ++ [';'])) =
    String.ofList (r.opening ++ (r.query ++ [';'])) := by
  apply trimmed_eq_self
  · intro c hc
    obtain ⟨d, hd, hword, -⟩ := r.exists_first
    have hsplit : r.text = (r.opening ++ (r.query ++ [';'])) ++ r.after.list := by
      simp [text]
    rw [hsplit, List.head?_append_of_ne_nil _ (by simp), hc] at hd
    exact Option.some.inj hd ▸ Text.isBlank_of_isWordChar hword
  · intro c hc
    rw [← List.append_assoc, List.getLast?_concat] at hc
    exact Option.some.inj hc ▸ by decide

theorem statement_cursor {r : Retrieval} (hr : r.isCursor = true) : r.statement =
    { kind := .cursor
      text := trimmed (r.opening ++ (r.query ++ [';']))
      tables := tablesIn ("from " ++ trimmed r.table.list)
      fields := selectedColumns (trimmed r.columns.text) } := by
  have htable := trimmed_identifier noBlanks noBlanks r.table
  rw [noBlanks, List.nil_append, List.append_nil] at htable
  rw [trimmed_closed, htable, tablesIn_from, trimmed_columns, selectedColumns_text, statement,
    if_pos hr, if_pos hr, List.append_assoc]

theorem statement_selection {r : Retrieval} (hr : r.isCursor = false) : r.statement =
    { kind := .select
      text := trimmed r.query
      tables := [Text.lower (String.ofList r.table.list)]
      fields := selectedColumns (String.ofList r.columns.text) } := by
  obtain ⟨t, hrole⟩ := r.exists_target hr
  have hopening : r.opening = [] := by rw [opening, hrole]
  rw [trimmed_query, selectedColumns_text, statement, if_neg (by simp [hr]), if_neg (by simp [hr]),
    hopening, List.nil_append, List.append_nil]

/-- The statement that reports a cursor or selection mentions its table. -/
theorem mentions_statement (r : Retrieval) : r.statement.mentions r.table.list = true := by
  obtain ⟨front, hquery⟩ := r.query_eq
  rw [Statement.mentions, Text.hasPart_iff, statement, String.toList_ofList, String.toList_ofList,
    hquery]
  exact ⟨r.opening ++ front, if r.isCursor then [';'] else [], by simp only [List.append_assoc]⟩

end Retrieval

namespace RetrievalList

theorem assignments_text (p : RetrievalList) : assignments p.text = [] := by
  apply assignments_eq_nil
  intro t ht
  rcases cons_suffix_append ht with ht | ⟨run, hrun, -⟩
  · obtain ⟨run, rest, hsplit, hrun⟩ := exists_semicolon ht
    exact ⟨run, ';', rest, hsplit, hrun, by decide, by decide⟩
  · exact absurd (p.lead.all ':' (hrun.subset List.mem_cons_self)) (by decide)

theorem isSimple_text {p : RetrievalList} (h : p.retrievals ≠ []) :
    isSimple (String.ofList p.text) = false := by
  obtain ⟨r, rs, hretrievals⟩ := List.exists_cons_of_ne_nil h
  obtain ⟨c, hhead, hc, hsmall⟩ := r.exists_first
  obtain ⟨rest, hcons⟩ := List.head?_eq_some_iff.mp hhead
  rw [text, hretrievals, List.flatMap_cons, hcons, List.cons_append]
  apply isSimple_of_first p.lead.all (Text.isBlank_of_isWordChar hc)
  · rcases hsmall with hsmall | hsmall <;> rw [hsmall] <;> decide
  · rcases hsmall with hsmall | hsmall <;> rw [hsmall] <;> decide

/-! ## What is reported -/

/-- The selections that are found. -/
def found (p : RetrievalList) : List Retrieval :=
  exposed false p.retrievals

/-- The statements that read tables. -/
def reads (p : RetrievalList) : List Statement :=
  p.cursors.map Retrieval.statement ++ p.found.map Retrieval.statement

/-- The tables that are read as calls. -/
def calls (p : RetrievalList) : List (List Char) :=
  ((p.retrievals.map (·.table)).filter (·.isProcedure)).map (·.list)

/-- The tables that are reported as calls: the leading ones, unless a statement mentions them. -/
def reportedCalls (p : RetrievalList) : List (List Char) :=
  (leading (fun m n => Text.occursIn n m) p.calls).filter (fun n =>
    !p.reads.any (fun s => s.mentions n))

theorem isWordChar_lead (p : RetrievalList) : ∀ c ∈ p.lead.list, Text.isWordChar c = false :=
  fun c hc => Text.isWordChar_of_isBlank (p.lead.all c hc)

theorem cursors_text (p : RetrievalList) :
    Trigger.cursors p.text = p.cursors.map Retrieval.statement := by
  have hread := map_findFrom_cursorMatch p.retrievals p.isWordChar_lead 0
  have hmap : Trigger.cursors p.text = ((findAll (fun _ => cursorMatch) p.text).map
      (fun m => (m.value, m.covered))).map (fun m => {
        kind := .cursor
        text := trimmed m.2
        tables := tablesIn ("from " ++ trimmed m.1.2)
        fields := selectedColumns (trimmed m.1.1) }) := by
    rw [List.map_map]
    rfl
  rw [hmap, findAll, text, hread, List.map_map]
  refine List.map_congr_left fun r hr => ?_
  exact (Retrieval.statement_cursor (List.mem_filter.mp hr).2).symm

theorem isCursor_of_mem_found {p : RetrievalList} {r : Retrieval} (hr : r ∈ p.found) :
    r.isCursor = false := by
  simpa using (List.mem_filter.mp ((exposed_sublist false p.retrievals).subset hr)).2

theorem selections_text (p : RetrievalList) :
    Trigger.selections p.text = p.found.map Retrieval.statement := by
  have hedge : ∀ c ∈ p.lead.list.getLast?.or none, Text.isWordChar c = false := by
    intro c hc
    rw [Option.or_none] at hc
    exact p.isWordChar_lead c (List.mem_of_getLast? hc)
  have hread := map_findFrom_selectionMatch p.retrievals (List.nil_append p.text).symm
    p.isWordChar_lead hedge (settled_blanks p.lead.all)
  have hmap : Trigger.selections p.text = (((findAll selectionMatch p.text).filter
      (fun m => !endsInCursor (p.text.take m.start))).map (fun m => (m.value, m.covered))).map
        (fun m => {
          kind := .select
          text := trimmed m.2
          tables := [Text.lower (String.ofList m.1.2)]
          fields := selectedColumns (String.ofList m.1.1) }) := by
    rw [List.map_map]
    rfl
  rw [hmap]
  show (List.map _ (((findFrom selectionMatch ([] : List Char).length none
    (p.lead.list ++ p.retrievals.flatMap Retrieval.text)).filter _).map _)) = _
  rw [hread, List.map_map]
  refine List.map_congr_left fun r hr => ?_
  exact (Retrieval.statement_selection (isCursor_of_mem_found hr)).symm

theorem shown_text (p : RetrievalList) :
    (findAll callMatch p.text).map shown = p.calls.map (fun n => (n, false)) := by
  have hlead : ∀ c ∈ p.lead.list, isDelimiter c = true := fun c hc => by
    rw [isDelimiter, p.lead.all c hc, Bool.or_true]
  rw [findAll, text, map_shown_findFrom_retrievals p.retrievals hlead, calls, List.map_map]
  rfl

theorem withCalls_text (p : RetrievalList) : withCalls p.text p.reads =
    p.reads ++ p.reportedCalls.map (fun n => reported (n, false)) := by
  have hname : ∀ q ∈ p.calls.map (fun n => (n, false)),
      q.1 ≠ [] ∧ ∀ c ∈ q.1, Text.isWordChar c = true := by
    intro q hq
    obtain ⟨n, hn, rfl⟩ := List.mem_map.mp hq
    obtain ⟨i, -, rfl⟩ := List.mem_map.mp hn
    exact ⟨i.ne_nil, i.all⟩
  rw [withCalls_of_shown p.shown_text hname, leading_map, List.filter_map, List.map_map]
  rfl

theorem statements_eq (p : RetrievalList) : statements (String.ofList p.text) =
    p.reads ++ p.reportedCalls.map (fun n => reported (n, false)) := by
  rw [statements]
  split
  · next hsimple =>
    have hretrievals : p.retrievals = [] := by
      by_contra h
      rw [isSimple_text h] at hsimple
      cases hsimple
    rw [reportedCalls, reads, cursors, found, calls, hretrievals]
    rfl
  · rw [String.toList_ofList]
    dsimp only
    rw [assignments_text, List.append_nil, cursors_text, selections_text]
    exact p.withCalls_text

/-- Where every selection is found its statement mentions its table. -/
theorem reportedCalls_eq_nil {p : RetrievalList} (h : p.found = p.selections) :
    p.reportedCalls = [] := by
  refine List.filter_eq_nil_iff.mpr fun n hn => ?_
  have hcall := (leading_sublist p.calls).subset hn
  obtain ⟨i, hi, rfl⟩ := List.mem_map.mp hcall
  obtain ⟨r, hr, rfl⟩ := List.mem_map.mp (List.mem_filter.mp hi).1
  have hmem : r.statement ∈ p.reads := by
    rw [reads, List.mem_append]
    cases hcursor : r.isCursor with
    | true => exact Or.inl (List.mem_map_of_mem (List.mem_filter.mpr ⟨hr, hcursor⟩))
    | false =>
      rw [h]
      exact Or.inr (List.mem_map_of_mem (List.mem_filter.mpr ⟨hr, by simp [hcursor]⟩))
  have hany : p.reads.any (fun s => s.mentions r.table.list) = true :=
    List.any_eq_true.mpr ⟨_, hmem, r.mentions_statement⟩
  simp [hany]

/-- The number of selections that are reported for statements. -/
theorem countP_map_statement {rs : List Retrieval} {isCursor : Bool}
    (h : ∀ r ∈ rs, r.isCursor = isCursor) :
    (rs.map Retrieval.statement).countP (fun s => s.kind = .select) =
      if isCursor then 0 else rs.length := by
  rw [List.countP_map]
  cases isCursor with
  | true => exact List.countP_eq_zero.mpr fun r hr => by simp [Retrieval.statement, h r hr]
  | false => exact List.countP_eq_length.mpr fun r hr => by simp [Retrieval.statement, h r hr]

/-- Only where every selection is found one is reported for each. -/
theorem found_eq_selections {p : RetrievalList} (h : statements (String.ofList p.text) =
    p.cursors.map Retrieval.statement ++ p.selections.map Retrieval.statement) :
    p.found = p.selections := by
  have hcursors := @countP_map_statement p.cursors true fun r hr => (List.mem_filter.mp hr).2
  have hfound := @countP_map_statement p.found false fun r hr => isCursor_of_mem_found hr
  have hselections := @countP_map_statement p.selections false fun r hr => by
    simpa using (List.mem_filter.mp hr).2
  have hcalls : (p.reportedCalls.map (fun n => reported (n, false))).countP
      (fun s => s.kind = .select) = 0 := by
    rw [List.countP_map]
    exact List.countP_eq_zero.mpr fun n _ => by simp [reported]
  have hcount := congrArg (List.countP (fun s => s.kind = .select)) h
  rw [statements_eq, reads, List.countP_append, List.countP_append, List.countP_append, hcursors,
    hfound, hselections, hcalls] at hcount
  have hlength : p.found.length = p.selections.length := by simpa using hcount
  exact (exposed_sublist false p.retrievals).eq_of_length hlength

end RetrievalList

/-- **The statements of a program that reads tables.** First every cursor is reported, then the
selections that are found, then the tables that look like procedures and are mentioned nowhere. They
are one for each cursor and then one for each selection, exactly where every selection stands before
every cursor. -/
theorem statements_text (p : RetrievalList) :
    statements (String.ofList p.text) = p.cursors.map Retrieval.statement ++
        p.found.map Retrieval.statement ++ p.reportedCalls.map (fun n => reported (n, false)) ∧
      (statements (String.ofList p.text) =
          p.cursors.map Retrieval.statement ++ p.selections.map Retrieval.statement ↔
        p.retrievals.Pairwise (fun r s => r.isCursor = true → s.isCursor = true)) := by
  refine ⟨p.statements_eq, fun h => ?_, fun h => ?_⟩
  · exact exposed_false_eq_iff.mp (RetrievalList.found_eq_selections h)
  · have hfound : p.found = p.selections := exposed_false_eq_iff.mpr h
    rw [p.statements_eq, RetrievalList.reads, hfound, RetrievalList.reportedCalls_eq_nil hfound,
      List.map_nil, List.append_nil]

/-- Every word of the language has more than one letter. -/
theorem not_spells_letter (w : ReservedWord) (c : Char) : ¬ Spells w.letters [c] := by
  intro h
  have hlength : w.letters.length = 1 := h.length_eq
  cases w <;> exact absurd hlength (by decide)

/-- A selection that follows on a cursor is lost. -/
theorem selection_lost_behind_cursor :
    let gap : Gap := ⟨⟨[' '], List.forall_mem_singleton.mpr rfl⟩, by decide⟩
    let named : (c : Char) → Text.isWordChar c = true → Identifier := fun c hc =>
      { list := [c]
        all := by simpa using hc
        ne_nil := by simp
        plain := fun w => not_spells_letter w c }
    let spelled : (w : ReservedWord) → Spelling w := fun w => ⟨w.letters, spells_self _⟩
    let retrieval : Role → Identifier → Identifier → Blanks → Retrieval :=
      fun role column table after =>
        ⟨role, spelled .select, gap, ⟨[], column⟩, gap, spelled .fromWord, gap, table, after⟩
    let p : RetrievalList :=
      { lead := noBlanks
        retrievals :=
          [retrieval (.cursor ⟨spelled .cursor, gap, named 'c' (by decide), gap, spelled .isWord,
                gap⟩)
              (named 'a' (by decide)) (named 't' (by decide)) gap.toChars,
            retrieval (.selection ⟨gap, spelled .into, gap, named 'x' (by decide),
                named 'y' (by decide)⟩)
              (named 'b' (by decide)) (named 'u' (by decide)) noBlanks] }
    String.ofList p.text = "cursor c is select a from t; select b into :x.y from u;" ∧
      (statements (String.ofList p.text)).map (fun s => (s.kind, s.tables)) =
        [(.cursor, ["t"])] ∧
      (p.cursors ++ p.selections).map (fun r => (r.statement.kind, r.statement.tables)) =
        [(.cursor, ["t"]), (.select, ["u"])] := by
  decide +kernel

end Formwork.Trigger
