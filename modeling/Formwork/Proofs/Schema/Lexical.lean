import Formwork.Proofs.Schema.Literal
import Formwork.Proofs.Schema.Script
import Formwork.Proofs.Sql.Token

/-!
# How SQL reads a script

SQL takes a generated script apart into one INSERT for each statement, in order, and one COMMIT. The
texts of a row stand in string literals with their quotes doubled, so that each is read as the text
that it is; only the word for the type stands there as it is. The record, the time and the binding
of an attribute without a column stand in comments, where only a line feed ends them.
-/
namespace Formwork.Schema

open Sql

/-! ## Values -/

theorem scan_doubled (cs content : List Char) :
    scan (.literal content) (doubled cs) = (.literal (content ++ cs), []) := by
  induction cs generalizing content with
  | nil => simp [doubled, scan]
  | cons c cs ih =>
    by_cases hc : c = '\x27'
    · subst hc
      have hquote : step (.literal content) '\x27' = (.quote content, []) := rfl
      have hdouble : step (.quote content) '\x27' = (.literal (content ++ ['\x27']), []) := rfl
      rw [doubled_quote, scan_cons hquote, scan_cons hdouble, ih, List.append_assoc]
      rfl
    · have hstep : step (.literal content) c = (.literal (content ++ [c]), []) := by
        simp [step, hc]
      rw [doubled_cons hc, scan_cons hstep, ih, List.append_assoc]
      rfl

/-- A literal is read as the text in it. -/
theorem readsOne_literal (s : String) : ReadsOne (literal s).toList (.literal s) := by
  intro c hc
  have hopen : step (.plain []) '\x27' = (.literal [], []) := rfl
  rw [Reads, toList_literal, List.cons_append, List.append_assoc, scan_cons hopen,
    scan_append_of_eq (scan_doubled s.toList [])]
  rcases hc with rfl | rfl <;>
    simp [scan, step, stepPlain, Text.isBlank, isMark, ended, String.ofList_toList]

/-- A number is read as one word. -/
theorem readsOne_number (i : Int) : ReadsOne (toString i).toList (.word (toString i)) := by
  have hplain : decimalDigits.all isPlain = true := by decide
  obtain ⟨digits, hne, hdigits, heq⟩ := exists_digits i
  have hword : ∀ c ∈ digits, isPlain c = true := fun c hc =>
    List.all_eq_true.mp hplain c (hdigits c hc)
  have hnumber : toString i = String.ofList (toString i).toList := String.ofList_toList.symm
  rcases heq with heq | heq
  · rw [hnumber, heq, String.toList_ofList]
    exact readsOne_word hne hword
  · rw [hnumber, heq, String.toList_ofList]
    obtain ⟨d, digits, rfl⟩ := List.exists_cons_of_ne_nil hne
    obtain ⟨hd, hmore⟩ := List.forall_mem_cons.mp hword
    intro c hc
    have hhyphen : step (.plain []) '-' = (.hyphen [], []) := rfl
    have hfirst : step (.hyphen []) d = (.plain ['-', d], []) := by
      have hne : d ≠ '-' := by
        rintro rfl
        revert hd
        decide
      simpa [step, hne] using step_of_isPlain hd ['-']
    rw [Reads, List.cons_append, List.cons_append, scan_cons hhyphen, scan_cons hfirst,
      scan_append_of_eq (scan_word hmore _)]
    rcases hc with rfl | rfl <;> simp [scan, step, stepPlain, Text.isBlank, isMark, ended]

/-- The values of an INSERT as SQL reads them. -/
def Statement.tokens (t : Statement) : List Token :=
  [.literal t.objectName, .literal t.attributeName, .word (toString t.number),
    .literal t.attributeName, .literal t.typeWord, .word (toString t.length),
    .word (toString t.row.scale), .literal t.title, .literal t.remarks,
    .word (Statement.bit t.row.dbRequired), .word (Statement.bit t.row.persistent), .word "1",
    if t.row.defaultValue.truthy then .literal t.row.defaultValue.words else .word "NULL",
    .literal "I"]

theorem readsOne_bit (b : Bool) :
    ReadsOne (Statement.bit b).toList (.word (Statement.bit b)) := by
  cases b
  · exact readsOne_number 0
  · exact readsOne_number 1

theorem readsOne_values {t : Statement} (h : '\x27' ∉ t.typeWord.toList) :
    List.Forall₂ ReadsOne (t.values.map String.toList) t.tokens := by
  have hnull : ReadsOne "NULL".toList (.word "NULL") :=
    readsOne_word (by decide) (List.all_eq_true.mp (by decide))
  have hchanged : ReadsOne "'I'".toList (.literal "I") := readsOne_literal "I"
  have hdefault : ReadsOne
      (if t.row.defaultValue.truthy then literal t.row.defaultValue.words else "NULL").toList
      (if t.row.defaultValue.truthy then .literal t.row.defaultValue.words else .word "NULL") := by
    split
    · exact readsOne_literal _
    · exact hnull
  have htype : ReadsOne ("'" ++ t.typeWord ++ "'").toList (.literal t.typeWord) := by
    have hread := readsOne_literal t.typeWord
    rwa [literal, escaped_of_notMem h] at hread
  rw [Statement.values_eq]
  exact .cons (readsOne_literal _) <| .cons (readsOne_literal _) <|
    .cons (readsOne_number t.number) <| .cons (readsOne_literal _) <| .cons htype <|
    .cons (readsOne_number _) <| .cons (readsOne_number _) <| .cons (readsOne_literal _) <|
    .cons (readsOne_literal _) <| .cons (readsOne_bit _) <| .cons (readsOne_bit _) <|
    .cons (readsOne_number 1) <| .cons hdefault <| .cons hchanged .nil

/-! ## Statements -/

theorem readsOne_columns :
    List.Forall₂ ReadsOne (Statement.columns.map String.toList) (Statement.columns.map .word) := by
  have hplain : ∀ column ∈ Statement.columns, column.toList ≠ [] ∧
      column.toList.all isPlain = true := by
    simp only [Statement.columns, List.forall_mem_cons]
    repeat rw [String.toList_ofList]
    decide
  rw [List.forall₂_map_left_iff, List.forall₂_map_right_iff, List.forall₂_same]
  intro column hcolumn
  obtain ⟨hne, hchars⟩ := hplain column hcolumn
  have hread := readsOne_word hne (List.all_eq_true.mp hchars)
  rwa [String.ofList_toList] at hread

theorem reads_insertText : Reads Statement.insertText
    ([.word "INSERT", .word "INTO", .word "MAXATTRIBUTECFG"] ++
      listed (Statement.columns.map .word) ++ [.word "VALUES"]) := by
  have hinto : Reads
      ("INSERT".toList ++ ' ' :: ("INTO".toList ++ ' ' :: ("MAXATTRIBUTECFG".toList ++ [' '])))
      [.word "INSERT", .word "INTO", .word "MAXATTRIBUTECFG"] := by
    repeat rw [String.toList_ofList]
    rfl
  have hcolumns := reads_listed readsOne_columns (by simp [Statement.columns])
  have hwords : Reads ('\n' :: ("VALUES".toList ++ [' '])) [.word "VALUES"] := by
    rw [String.toList_ofList]
    rfl
  have hread := (hinto.append hcolumns).append hwords
  unfold Statement.insertText Statement.columnsText
  simpa only [List.append_assoc, List.cons_append, List.nil_append] using hread

/-- An INSERT is read as what is read of its values, whatever that is. -/
theorem reads_sql {t : Statement} {ts : List Token}
    (h : Reads ('(' :: ([',', ' '].intercalate (t.values.map String.toList) ++ [')', ';', '\n']))
      ts) :
    Reads (terminated [t.sql, ""]) ([.word "INSERT", .word "INTO", .word "MAXATTRIBUTECFG"] ++
      listed (Statement.columns.map .word) ++ .word "VALUES" :: ts) := by
  have hblank : Reads ['\n'] [] := rfl
  have hsplit : terminated [t.sql, ""] = Statement.insertText ++
      '(' :: ([',', ' '].intercalate (t.values.map String.toList) ++ [')', ';', '\n']) ++
        ['\n'] := by
    rw [terminated_cons, Statement.toList_sql]
    simp [terminated]
  have hread := (reads_insertText.append h).append hblank
  rw [hsplit]
  simpa only [List.append_assoc, List.singleton_append, List.append_nil] using hread

/-! ## Lines -/

/-- Comments are nothing. -/
theorem reads_comments {lines : List String} (h : ∀ line ∈ lines, IsComment line)
    (hfeed : ∀ line ∈ lines, '\n' ∉ line.toList) : Reads (terminated lines) [] := by
  have hline : ∀ line ∈ lines, Reads (line.toList ++ ['\n']) [] := by
    intro line hline
    rcases h line hline with rfl | hstart
    · rfl
    · exact reads_comment hstart (hfeed line hline)
  have hread := Reads.flatMap hline
  rwa [List.flatMap_eq_nil_iff.mpr (fun _ _ => rfl)] at hread

/-- The texts of a statement that stand in comments. -/
def commentedTexts (t : Statement) : List String :=
  if t.persistent then [] else [t.binding]

theorem reads_statementLines {t : Statement} (htype : '\x27' ∉ t.typeWord.toList)
    (h : ∀ text ∈ commentedTexts t, '\n' ∉ text.toList) :
    Reads (terminated (statementLines t))
      (insertion "MAXATTRIBUTECFG" Statement.columns t.tokens ++ [.mark ';']) := by
  have hinsert : Reads (terminated [t.sql, ""])
      (insertion "MAXATTRIBUTECFG" Statement.columns t.tokens ++ [.mark ';']) := by
    have hend : Reads [';', '\n'] [.mark ';'] := rfl
    have hvalues := (reads_listed (readsOne_values htype) (by simp [Statement.values_eq])).append
      hend
    rw [List.cons_append, List.append_assoc, List.singleton_append] at hvalues
    have hread := reads_sql hvalues
    rwa [← List.cons_append, ← List.append_assoc] at hread
  rw [statementLines]
  cases hpersistent : t.persistent with
  | true => exact hinsert
  | false =>
    have hbinding : '\n' ∉ t.binding.toList := h _ (by simp [commentedTexts, hpersistent])
    have hmark : ['-', '-'] <+: "-- metadata only: ".toList := by
      rw [String.toList_ofList]
      simp
    have hstart : '\n' ∉ "-- metadata only: ".toList := by
      rw [String.toList_ofList]
      simp
    have hend : '\n' ∉ " has no storage column".toList := by
      rw [String.toList_ofList]
      simp
    have hcomment : Reads
        (terminated ["-- metadata only: " ++ t.binding ++ " has no storage column"]) [] := by
      refine reads_comments (fun line hline => ?_) (fun line hline => ?_)
      · rw [List.mem_singleton.mp hline, String.append_assoc]
        exact isComment_append hmark _
      · rw [List.mem_singleton.mp hline]
        simp only [String.toList_append, List.mem_append, not_or]
        exact ⟨⟨hstart, hbinding⟩, hend⟩
    rw [if_neg (by simp), terminated_append]
    exact hcomment.append hinsert

theorem reads_bodyLines {ts : List Statement} {f : Statement → List Token}
    (h : ∀ t ∈ ts, Reads (terminated (statementLines t)) (f t)) :
    Reads (terminated (bodyLines ts)) (ts.flatMap f) := by
  have hfeed : ∀ line ∈ statementsOpening, '\n' ∉ line.toList := fun line hline =>
    notMem_fixedLines line (List.mem_append_left _ (List.mem_append_right _ hline))
  have hopening : Reads (terminated statementsOpening) [] :=
    reads_comments isComment_of_mem_statementsOpening hfeed
  have hstatements : Reads (terminated (ts.flatMap statementLines)) (ts.flatMap f) := by
    rw [terminated_flatMap]
    exact Reads.flatMap h
  rw [bodyLines]
  split
  · next hempty =>
    rw [List.isEmpty_iff.mp hempty]
    exact reads_nil
  · rw [terminated_append]
    exact hopening.append hstatements

theorem reads_closing : Reads (terminated closing) [.word "COMMIT", .mark ';'] := by
  have hsplit : closing = closing.take 3 ++ "COMMIT;" :: closing.drop 4 := rfl
  have hcomments : ∀ lines ⊆ closing.take 3 ++ closing.drop 4, Reads (terminated lines) [] := by
    intro lines hlines
    refine reads_comments (fun line hline => isComment_of_mem_closing line (hlines hline))
      fun line hline => ?_
    have hmem := List.mem_append.mp (hlines hline)
    exact notMem_fixedLines line (List.mem_append_right _
      (hmem.elim List.mem_of_mem_take List.mem_of_mem_drop))
  have hcommit : Reads ("COMMIT;".toList ++ ['\n']) [.word "COMMIT", .mark ';'] := by
    rw [String.toList_ofList]
    rfl
  have hbefore := hcomments _ (List.subset_append_left (closing.take 3) (closing.drop 4))
  have hafter := hcomments _ (List.subset_append_right (closing.take 3) (closing.drop 4))
  rw [hsplit, terminated_append, terminated_cons, ← List.singleton_append, ← List.append_assoc]
  simpa using (hbefore.append hcommit).append hafter

theorem reads_opening {record time : String} (hrecord : '\n' ∉ record.toList)
    (htime : '\n' ∉ time.toList) : Reads (terminated (opening record (shownTime time))) [] := by
  have hshown : '\n' ∉ (shownTime time).toList := by
    rw [shownTime]
    split
    · rw [defaultTime, String.toList_ofList]
      simp
    · exact htime
  have hfor : '\n' ∉ "-- Generated for MBO: ".toList := by
    rw [String.toList_ofList]
    simp
  have hat : '\n' ∉ "-- Generated at: ".toList := by
    rw [String.toList_ofList]
    simp
  have hfixed : ∀ line ∈ opening "" "", '\n' ∉ line.toList := fun line hline =>
    notMem_fixedLines line (List.mem_append_left _ (List.mem_append_left _ hline))
  refine reads_comments isComment_of_mem_opening (forall_mem_opening hfixed ?_ ?_)
  · rw [String.toList_append, List.mem_append, not_or]
    exact ⟨hfor, hrecord⟩
  · rw [String.toList_append, List.mem_append, not_or]
    exact ⟨hat, hshown⟩

/-- A script is read as its statements and a COMMIT. -/
theorem reads_render {record time : String} {ts : List Statement} {f : Statement → List Token}
    (hrecord : '\n' ∉ record.toList) (htime : '\n' ∉ time.toList)
    (h : ∀ t ∈ ts, Reads (terminated (statementLines t)) (f t)) :
    Reads (render record time ts).toList (ts.flatMap f ++ [.word "COMMIT", .mark ';']) := by
  rw [toList_render]
  exact ((reads_opening hrecord htime).append (reads_bodyLines h)).append reads_closing

/-! ## Scripts -/

theorem notMem_insertion {table : String} {columns : List String} {values : List Token}
    (h : .mark ';' ∉ values) : .mark ';' ∉ insertion table columns values := by
  have hcolumns : Token.mark ';' ∉ columns.map Token.word := by simp
  simp [insertion, notMem_listed hcolumns, notMem_listed h]

theorem notMem_tokens (t : Statement) : .mark ';' ∉ t.tokens := by
  have hdefault : (if t.row.defaultValue.truthy then Token.literal t.row.defaultValue.words
      else .word "NULL") ≠ .mark ';' := by
    split <;> simp
  simpa [Statement.tokens] using hdefault.symm

theorem content_insertions_of_notMem {s : Settings} {m : Metadata} {time : String} {rows : List Row}
    (hrecord : '\n' ∉ m.recordName.plain.toList) (htime : '\n' ∉ time.toList)
    (htype : ∀ t ∈ (statements s m rows).1, '\x27' ∉ t.typeWord.toList)
    (hcomment : ∀ text ∈ (statements s m rows).1.flatMap commentedTexts, '\n' ∉ text.toList) :
    statements? (scriptOf s m time rows).content =
      some ((statements s m rows).1.map (fun t =>
        insertion "MAXATTRIBUTECFG" Statement.columns t.tokens) ++ [[.word "COMMIT"]]) := by
  have hlines := fun t ht => reads_statementLines (htype t ht) fun text htext =>
    hcomment text (List.mem_flatMap_of_mem ht htext)
  refine (reads_render hrecord htime hlines).statements?.trans ?_
  exact cut?_flatMap (fun t _ => notMem_insertion (notMem_tokens t)) rfl

/-- **No text breaks out of a script.** Where no word for a type has a quote and nothing that stands
in a comment has a line feed, SQL reads a generated script as one INSERT for each statement, in
order, and a COMMIT. An INSERT has fourteen values, and its literals are the object and the
attribute of its row, the type, the title, the remarks and the default value. -/
theorem content_insertions {s : Settings} {m : Metadata} {time : String} {rows : List Row}
    {script : Script} (hgen : generate s m time rows = .ok script)
    (hrecord : '\n' ∉ m.recordName.plain.toList) (htime : '\n' ∉ time.toList)
    (htype : ∀ t ∈ script.statements, '\x27' ∉ t.typeWord.toList)
    (hcomment : ∀ text ∈ script.statements.flatMap commentedTexts, '\n' ∉ text.toList) :
    statements? script.content =
        some (script.statements.map (fun t =>
          insertion "MAXATTRIBUTECFG" Statement.columns t.tokens) ++ [[.word "COMMIT"]]) ∧
      ∀ t ∈ script.statements, t.tokens.length = 14 ∧
        t.objectName = t.row.target m.recordName.words ∧
        t.attributeName = Text.upper t.row.fieldName.words := by
  obtain ⟨-, -, rfl⟩ := generate_eq_ok_iff.mp hgen
  refine ⟨content_insertions_of_notMem hrecord htime htype hcomment, fun t ht => ⟨rfl, ?_⟩⟩
  exact Prod.mk.inj (key_of_mem_statements ht)

/-- A label that looks like SQL is read as a literal. -/
theorem content_insertions_quoted_label :
    let m : Metadata := { recordName := .text "SR" }
    let rows : List Row := [{ fieldName := .text "ZZ_A", label := .text "'); DELETE --\n" }]
    let script := scriptOf .builtin m "" rows
    generate .builtin m "" rows = .ok script ∧ '\n' ∉ m.recordName.plain.toList ∧
      '\n' ∉ "".toList ∧ (∀ t ∈ script.statements, '\x27' ∉ t.typeWord.toList) ∧
      (∀ text ∈ script.statements.flatMap commentedTexts, '\n' ∉ text.toList) ∧
      (statements? script.content).map List.length = some 2 := by
  intro m rows script
  have hgen : generate .builtin m "" rows = .ok script :=
    generate_eq_ok_iff.mpr ⟨by decide +kernel, by decide +kernel, rfl⟩
  have hrecord : '\n' ∉ m.recordName.plain.toList := by decide +kernel
  have htime : '\n' ∉ "".toList := by decide
  have htype : ∀ t ∈ script.statements, '\x27' ∉ t.typeWord.toList := by decide +kernel
  have hcomment : ∀ text ∈ script.statements.flatMap commentedTexts, '\n' ∉ text.toList := by
    decide +kernel
  refine ⟨hgen, hrecord, htime, htype, hcomment, ?_⟩
  rw [(content_insertions hgen hrecord htime htype hcomment).1]
  decide +kernel

/-- A word for a type that ends its literal brings a statement of its own into the script. -/
theorem content_injected :
    let m : Metadata := { recordName := .text "SR" }
    let rows : List Row :=
      [{ fieldName := .text "ZZ_A", label := .text "A",
         maxType := .other "ALN'); DELETE FROM MAXATTRIBUTECFG; --" }]
    let script := scriptOf .builtin m "" rows
    generate .builtin m "" rows = .ok script ∧ script.statements.length = 1 ∧
      statements? script.content = some
        [insertion "MAXATTRIBUTECFG" Statement.columns
            [.literal "SR", .literal "ZZ_A", .word "1000", .literal "ZZ_A", .literal "ALN"],
          [.word "DELETE", .word "FROM", .word "MAXATTRIBUTECFG"], [.word "COMMIT"]] := by
  intro m rows script
  have hgen : generate .builtin m "" rows = .ok script :=
    generate_eq_ok_iff.mpr ⟨by decide +kernel, by decide +kernel, rfl⟩
  have hvalues : script.statements.map (fun t => (t.persistent, t.values)) =
      [(true, ["'SR'", "'ZZ_A'", "1000", "'ZZ_A'", "'ALN'); DELETE FROM MAXATTRIBUTECFG; --'",
        "100", "0", "'A'", "'A'", "0", "1", "1", "NULL", "'I'"])] := by
    decide +kernel
  obtain ⟨t, hstatements, ht⟩ := List.map_eq_singleton_iff.mp hvalues
  obtain ⟨hpersistent, hvalues⟩ := Prod.mk.inj ht
  -- The type ends its literal and the statement, and its last characters open a comment.
  have hinjected : Reads ('(' ::
      ([',', ' '].intercalate (t.values.map String.toList) ++ [')', ';', '\n']))
      (listed [.literal "SR", .literal "ZZ_A", .word "1000", .literal "ZZ_A", .literal "ALN"] ++
        [.mark ';', .word "DELETE", .word "FROM", .word "MAXATTRIBUTECFG", .mark ';']) := by
    rw [hvalues]
    decide +kernel
  have hlines : ∀ u ∈ [t], Reads (terminated (statementLines u))
      ([.word "INSERT", .word "INTO", .word "MAXATTRIBUTECFG"] ++
        listed (Statement.columns.map .word) ++ .word "VALUES" ::
          (listed [.literal "SR", .literal "ZZ_A", .word "1000", .literal "ZZ_A", .literal "ALN"] ++
            [.mark ';', .word "DELETE", .word "FROM", .word "MAXATTRIBUTECFG", .mark ';'])) := by
    intro u hu
    rw [List.mem_singleton.mp hu, statementLines, if_pos hpersistent]
    exact reads_sql hinjected
  have hrecord : '\n' ∉ m.recordName.plain.toList := by decide +kernel
  have htime : '\n' ∉ "".toList := by decide
  have hread := (reads_render hrecord htime hlines).statements?
  rw [List.flatMap_singleton] at hread
  rw [content_scriptOf, hstatements]
  exact ⟨hgen, rfl, hread.trans (by decide +kernel)⟩

end Formwork.Schema
