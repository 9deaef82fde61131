import Formwork.Proofs.Schema.Coverage
import Formwork.Proofs.Schema.Head
import Formwork.Proofs.Schema.Script

/-!
# What coverage reads back from a script

Where no text of a row spells the head of an INSERT, the heads in a script are those of its
statements: a match begins at each of them, takes the statement up to its second value, and none
begins elsewhere. The object comes back as it was; the name of the attribute comes back with the
quotes doubled that it has in the script.
-/
namespace Formwork.Coverage

open Text.Match Schema

/-! ## Statements -/

/-- The start of a statement, up to its second value. -/
def stagingText (t : Statement) : List Char :=
  Statement.insertText ++ '(' :: ((literal t.objectName).toList ++
    ',' :: ' ' :: (literal t.attributeName).toList)

/-- The end of a statement, behind its second value. -/
def laterText (t : Statement) : List Char :=
  ',' :: ' ' :: ([',', ' '].intercalate (t.laterValues.map String.toList) ++ [')', ';'])

/-- Object and attribute of a statement with the quotes that they have in its literals. -/
def doubledKey (t : Statement) : List Char × List Char :=
  (doubled t.objectName.toList, doubled t.attributeName.toList)

theorem toList_sql_eq (t : Statement) : t.sql.toList = stagingText t ++ laterText t := by
  obtain ⟨v, vs, hlater⟩ : ∃ v vs, t.laterValues = v :: vs := ⟨_, _, rfl⟩
  rw [Statement.toList_sql, Statement.values_eq, stagingText, laterText, hlater]
  simp only [List.map_cons, List.intercalate_cons_cons, List.append_assoc, List.cons_append,
    List.nil_append]

/-- The word before the values stands nowhere in what comes before it. -/
theorem values_notMem_columnsText {α : Type} (k : Rest α) (rest : List Char) :
    ∀ front, front ≠ [] → front <:+ Statement.columnsText →
      word "VALUES" k (front ++ ("VALUES".toList ++ rest)) = none := by
  have hcheck : ∀ front ∈ Statement.columnsText.tails, front ≠ [] →
      letters "VALUES".toList some (front ++ "VALUES".toList) = none := by
    decide +kernel
  intro front hne hfront
  rw [← List.append_assoc]
  refine letters_append_eq_none ?_ (hcheck front ((List.mem_tails _ _).mpr hfront) hne) k rest
  rw [List.length_append]
  exact Nat.le_add_left _ _

/-- The values of a statement are read where they stand. -/
theorem stagedAttribute_stagingText (t : Statement) {rest : List Char}
    (hrest : ∀ c ∈ rest.head?, c ≠ '\x27') :
    stagedAttribute (stagingText t ++ rest) = some (doubledKey t, rest) := by
  have hliteral : ∀ (s : String) (after : List Char),
      ∀ c ∈ ((literal s).toList ++ after).head?, Text.isBlank c = false := by
    intro s after c hc
    rw [toList_literal] at hc
    obtain rfl := Option.mem_some_iff.mp hc
    decide
  have hinto : ∀ after, ∀ c ∈ ("INTO".toList ++ after).head?, Text.isBlank c = false := by
    simp [Text.isBlank]
  have htable : ∀ after, ∀ c ∈ ("MAXATTRIBUTECFG".toList ++ after).head?,
      Text.isBlank c = false := by
    simp [Text.isBlank]
  have hcolumns : Statement.columnsText.all (· != ';') = true := by decide +kernel
  have hspace : Text.isBlank ' ' = true := by decide
  unfold stagingText Statement.insertText
  simp only [List.append_assoc, List.cons_append, List.nil_append]
  refine (letters_self _ _ _).trans (blanks1_cons hspace (hinto _) ?_)
  refine (letters_self _ _ _).trans (blanks1_cons hspace (htable _) ?_)
  refine (letters_self _ _ _).trans ?_
  have hedge : ∀ after, isWordEdge (some 'G') (Statement.columnsText ++ after) = true := by
    intro after
    rfl
  -- The columns are passed over, and the values begin behind the only word VALUES.
  rw [wordEdge, if_pos (hedge _),
    few_append (List.all_eq_true.mp hcolumns) fun front hne hfront =>
      values_notMem_columnsText _ _ front hne hfront]
  refine few_of_isSome ((letters_self _ _ _).trans ?_)
  refine blanks_cons hspace (by simp [Text.isBlank]) ?_
  rw [one, if_pos (by decide)]
  refine blanks_of_head (hliteral _ _) ?_
  refine quotedLiteral_literal (by simp) ?_
  refine blanks_of_head (by simp [Text.isBlank]) ?_
  rw [one, if_pos (by decide)]
  refine blanks_cons hspace (hliteral _ _) ?_
  exact quotedLiteral_literal hrest rfl

/-! ## Parts of a script -/

/-- The texts of a row that a statement shows: its binding in a comment if it has no column, and the
values behind the first. -/
def shownTexts (t : Statement) : List String :=
  (if t.persistent then [] else [t.binding]) ++
    [t.attributeName, t.typeWord, t.title, t.remarks, t.row.defaultValue.words]

theorem stagedAttribute_eq_none {cs : List Char} (h : beginsStaging cs = false) :
    stagedAttribute cs = none := by
  rw [← Option.not_isSome_iff_eq_none]
  intro hsome
  obtain ⟨head, rest, heq, hhead, -⟩ := stagingHead_isSome.mp hsome
  rw [beginsStaging_iff.mpr ⟨head, rest, heq, hhead⟩] at h
  cases h

/-- Nothing is read from a text without heads that ends with something in which no head begins and
into which none reaches. -/
theorem readings_silent {cs barrier rest : List Char} (hcs : Silent cs)
    (hguarded : Guarded (barrier ++ rest))
    (hbarrier : barrier.any (Text.sameLetter 'I') = false) :
    readings stagedAttribute (cs ++ barrier ++ rest) = readings stagedAttribute rest := by
  refine readings_skip fun t hne ht => stagedAttribute_eq_none ?_
  rcases suffix_append_cases ht with h | ⟨front, h, rfl⟩
  · exact beginsStaging_append_of_no_letter hbarrier hne h rest
  · rw [List.append_assoc]
    exact hcs.beginsStaging_append hguarded h

theorem guarded_terminated {lines : List String} (h : ∀ line ∈ lines, IsComment line) :
    Guarded (terminated lines) := by
  induction lines with
  | nil => exact fun c hc => nomatch hc
  | cons line lines ih =>
    obtain ⟨hline, hlines⟩ := List.forall_mem_cons.mp h
    rw [terminated_cons]
    rcases hline with rfl | ⟨text, htext⟩
    · exact (ih hlines).cons (by decide)
    · rw [← htext]
      exact guarded_cons (by decide) _

theorem silent_terminated {lines : List String} (h : ∀ line ∈ lines, IsComment line)
    (hsilent : ∀ line ∈ lines, Silent line.toList) : Silent (terminated lines) := by
  have hfeed : Text.sameLetter 'I' '\n' = false := by decide
  induction lines with
  | nil => exact silent_nil
  | cons line lines ih =>
    obtain ⟨-, hcomments⟩ := List.forall_mem_cons.mp h
    obtain ⟨hline, hlines⟩ := List.forall_mem_cons.mp hsilent
    rw [terminated_cons]
    exact silent_append hline
      (silent_cons.mpr ⟨beginsStaging_eq_false hfeed _, ih hcomments hlines⟩)
      ((guarded_terminated hcomments).cons (by decide))

/-- Nothing is read from comments. -/
theorem readings_comments {lines : List String} (h : ∀ line ∈ lines, IsComment line)
    (hsilent : ∀ line ∈ lines, Silent line.toList) (rest : List Char) :
    readings stagedAttribute (terminated (lines ++ [banner, ""]) ++ rest) =
      readings stagedAttribute rest := by
  have hbanner : ∃ cs, banner.toList = '-' :: cs := ⟨_, rfl⟩
  rw [terminated_append]
  have hbarrier : (terminated [banner, ""]).any (Text.sameLetter 'I') = false := by
    simp only [terminated, banner, List.flatMap_cons, String.toList_append]
    repeat rw [String.toList_ofList]
    simp [Text.sameLetter]
  refine readings_silent (silent_terminated h hsilent) ?_ hbarrier
  obtain ⟨cs, hcs⟩ := hbanner
  rw [terminated_cons, hcs]
  exact guarded_cons (by decide) _

theorem silent_number (i : Int) : Silent (toString i).toList := by
  have hno : ('-' :: decimalDigits).any (Text.sameLetter 'I') = false := by decide
  obtain ⟨digits, -, hdigits, heq⟩ := exists_digits i
  refine silent_of_no_letter (List.any_eq_false.mpr fun c hc => List.any_eq_false.mp hno c ?_)
  rcases heq with heq | heq
  · rw [heq] at hc
    exact List.mem_cons_of_mem _ (hdigits c hc)
  · rw [heq] at hc
    exact List.cons_subset_cons _ hdigits hc

/-- A word between quotes makes no heads. -/
theorem silent_quoted {word : String} (h : Silent word.toList) :
    Silent ("'" ++ word ++ "'").toList := by
  have hquote : isStagingChar '\x27' = false := by decide
  have hno : ['\x27'].any (Text.sameLetter 'I') = false := by decide
  rw [String.toList_append, String.toList_append, List.append_assoc]
  exact silent_append_of_no_letter hno
    (silent_append h (silent_of_no_letter hno) (guarded_cons hquote []))

theorem silent_bit (b : Bool) : Silent (Statement.bit b).toList := by
  cases b <;> exact silent_iff.mpr (by decide)

theorem silent_laterValues {t : Statement}
    (h : ∀ text ∈ shownTexts t, mentionsStaging text = false) :
    ∀ v ∈ t.laterValues, Silent v.toList := by
  have hshown : ∀ text ∈ [t.attributeName, t.typeWord, t.title, t.remarks,
      t.row.defaultValue.words], Silent text.toList :=
    fun text htext => silent_iff.mpr (h text (List.mem_append_right _ htext))
  have hone : Silent "1".toList := silent_iff.mpr (by decide)
  have hnull : Silent "NULL".toList := silent_iff.mpr (by decide)
  have hchanged : Silent "'I'".toList := silent_iff.mpr (by decide)
  simp only [List.forall_mem_cons] at hshown
  obtain ⟨hname, htype, htitle, hremarks, hdefault, -⟩ := hshown
  simp only [Statement.laterValues, List.forall_mem_cons]
  refine ⟨silent_number t.number, silent_literal hname, silent_quoted htype, silent_number _,
    silent_number _, silent_literal htitle, silent_literal hremarks, silent_bit _, silent_bit _,
    hone, ?_, hchanged, by simp⟩
  split
  · exact silent_literal hdefault
  · exact hnull

/-- The comment of a statement without a column is passed over. -/
theorem readings_comment {binding : String} (h : mentionsStaging binding = false)
    (rest : List Char) :
    readings stagedAttribute
        (("-- metadata only: " ++ binding ++ " has no storage column").toList ++ '\n' :: rest) =
      readings stagedAttribute rest := by
  have hstart : "-- metadata only: ".toList.any (Text.sameLetter 'I') = false := by
    rw [String.toList_ofList]
    decide
  have hend : " has no storage column\n".toList.any (Text.sameLetter 'I') = false := by
    rw [String.toList_ofList]
    decide
  have hguarded : Guarded (" has no storage column\n".toList ++ rest) :=
    (guarded_cons (by decide) _).cons (by decide)
  rw [← readings_silent (silent_append_of_no_letter hstart (silent_iff.mpr h)) hguarded hend]
  rw [String.toList_append, String.toList_append, List.append_assoc, List.append_assoc,
    List.append_assoc]
  repeat rw [String.toList_ofList]
  rfl

/-- Of an INSERT its object and its attribute are read. -/
theorem readings_insert {t : Statement}
    (h : ∀ text ∈ shownTexts t, mentionsStaging text = false) (rest : List Char) :
    readings stagedAttribute (terminated [t.sql, ""] ++ rest) =
      doubledKey t :: readings stagedAttribute rest := by
  have hno : [')', ';', '\n', '\n'].any (Text.sameLetter 'I') = false := by decide
  have hsplit : terminated [t.sql, ""] ++ rest = stagingText t ++ (',' :: ' ' ::
      ([',', ' '].intercalate (t.laterValues.map String.toList) ++ [')', ';', '\n', '\n'] ++
        rest)) := by
    rw [terminated_cons, toList_sql_eq, laterText]
    simp [terminated]
  have hvalues : ∀ v ∈ t.laterValues.map String.toList, Silent v := by
    simpa using silent_laterValues h
  have hne : stagingText t ≠ [] := List.append_ne_nil_of_left_ne_nil (by decide) _
  rw [hsplit, readings_hit hne (stagedAttribute_stagingText t (by simp))]
  refine congrArg _ ?_
  have hlater : Silent ([',', ' '] ++ [',', ' '].intercalate _) :=
    silent_append_of_no_letter (by decide) (silent_intercalate hvalues)
  exact readings_silent hlater (guarded_cons (by decide) _) hno

/-- Of the lines of a statement only the INSERT is read. -/
theorem readings_statementLines {t : Statement}
    (h : ∀ text ∈ shownTexts t, mentionsStaging text = false) (rest : List Char) :
    readings stagedAttribute (terminated (statementLines t) ++ rest) =
      doubledKey t :: readings stagedAttribute rest := by
  cases hpersistent : t.persistent with
  | true => rw [statementLines, if_pos hpersistent, List.nil_append, readings_insert h]
  | false =>
    have hnot : ¬ t.persistent = true := by simp [hpersistent]
    have hbinding : mentionsStaging t.binding = false :=
      h _ (by simp [shownTexts, hpersistent])
    rw [statementLines, if_neg hnot, List.singleton_append, terminated_cons, List.append_assoc,
      List.cons_append, readings_comment hbinding, readings_insert h]

/-- No head begins in a line of fixed text. -/
theorem silent_fixedLines : ∀ line ∈ opening "" "" ++ statementsOpening ++ closing,
    Silent line.toList := by
  have hcheck : ∀ line ∈ opening "" "" ++ statementsOpening ++ closing,
      mentionsStaging line = false := by
    simp only [opening, statementsOpening, closing, banner, mentionsStaging,
      List.forall_mem_append, List.forall_mem_cons, String.toList_append]
    repeat rw [String.toList_ofList]
    decide +kernel
  exact fun line hline => silent_iff.mpr (hcheck line hline)

/-- Of the statements of a script the objects and the attributes are read, in order. -/
theorem readings_bodyLines {ts : List Statement}
    (h : ∀ text ∈ ts.flatMap shownTexts, mentionsStaging text = false) (rest : List Char) :
    readings stagedAttribute (terminated (bodyLines ts) ++ rest) =
      ts.map doubledKey ++ readings stagedAttribute rest := by
  have hstatements : readings stagedAttribute (terminated (ts.flatMap statementLines) ++ rest) =
      ts.map doubledKey ++ readings stagedAttribute rest := by
    induction ts with
    | nil => rfl
    | cons t ts ih =>
      simp only [List.flatMap_cons, List.forall_mem_append] at h
      rw [List.flatMap_cons, terminated_append, List.append_assoc, readings_statementLines h.1,
        ih h.2, List.map_cons, List.cons_append]
  rw [bodyLines]
  split
  · next hempty =>
    rw [List.isEmpty_iff.mp hempty]
    rfl
  · have hsplit : statementsOpening = statementsOpening.take 3 ++ [banner, ""] := rfl
    have hsilent : ∀ line ∈ statementsOpening.take 3, Silent line.toList := fun line hline =>
      silent_fixedLines line (List.mem_append_left _ (List.mem_append_right _
        (List.mem_of_mem_take hline)))
    rw [terminated_append, List.append_assoc, hsplit,
      readings_comments (fun line hline => isComment_of_mem_statementsOpening line
        (List.mem_of_mem_take hline)) hsilent, hstatements]

theorem silent_opening {record time : String} (hrecord : mentionsStaging record = false)
    (htime : mentionsStaging time = false) :
    ∀ line ∈ opening record time, Silent line.toList := by
  have hfixed : ∀ line ∈ opening "" "", Silent line.toList := fun line hline =>
    silent_fixedLines line (List.mem_append_left _ (List.mem_append_left _ hline))
  have hfor : "-- Generated for MBO: ".toList.any (Text.sameLetter 'I') = false := by
    rw [String.toList_ofList]
    decide
  have hat : "-- Generated at: ".toList.any (Text.sameLetter 'I') = false := by
    rw [String.toList_ofList]
    decide
  refine forall_mem_opening hfixed ?_ ?_
  · rw [String.toList_append]
    exact silent_append_of_no_letter hfor (silent_iff.mpr hrecord)
  · rw [String.toList_append]
    exact silent_append_of_no_letter hat (silent_iff.mpr htime)

theorem readings_closing : readings stagedAttribute (terminated closing) = [] := by
  have hcheck : (terminated closing).tails.all (fun t => !beginsStaging t) = true := by
    simp only [terminated, closing, banner, List.flatMap_cons, String.toList_append]
    repeat rw [String.toList_ofList]
    decide +kernel
  rw [← List.append_nil (terminated closing)]
  refine (readings_skip fun t _ ht => stagedAttribute_eq_none ?_).trans readings_nil
  have ht := List.all_eq_true.mp hcheck t ((List.mem_tails _ _).mpr ht)
  rwa [List.append_nil, ← Bool.not_eq_true']

/-- Of a script the objects and the attributes of its statements are read. -/
theorem readings_render {record time : String} {ts : List Statement}
    (hrecord : mentionsStaging record = false) (htime : mentionsStaging time = false)
    (h : ∀ text ∈ ts.flatMap shownTexts, mentionsStaging text = false) :
    readings stagedAttribute (render record time ts).toList = ts.map doubledKey := by
  have hshown : mentionsStaging (shownTime time) = false := by
    rw [shownTime]
    split
    · decide +kernel
    · exact htime
  have hsplit : ∀ time, opening record time = (opening record time).take 10 ++ [banner, ""] :=
    fun _ => rfl
  rw [toList_render, List.append_assoc, hsplit,
    readings_comments (fun line hline => isComment_of_mem_opening line
      (List.mem_of_mem_take hline)) (fun line hline => silent_opening hrecord hshown line
        (List.mem_of_mem_take hline)),
    readings_bodyLines h, readings_closing, List.append_nil]

/-! ## Scripts -/

/-- Object and attribute of a statement are in upper case. -/
theorem upper_of_mem_statements {s : Settings} {m : Metadata} {rows : List Row} {t : Statement}
    (h : t ∈ (statements s m rows).1) : Text.upper t.objectName = t.objectName ∧
      ∃ name, t.attributeName = Text.upper name := by
  obtain ⟨hobject, hname⟩ := Prod.mk.inj (key_of_mem_statements h)
  rw [hobject, hname]
  exact ⟨Row.upper_target _ t.row, _, rfl⟩

theorem stagedAttributes_eq (sql : String) :
    stagedAttributes sql = distinct ((readings stagedAttribute sql.toList).map (fun k =>
      Text.upper (String.ofList (undoubled k.1)) ++ "." ++ Text.upper (String.ofList k.2))) := by
  rw [readings, List.map_map]
  rfl

theorem stagedAttributes_scriptOf {s : Settings} {m : Metadata} {time : String} {rows : List Row}
    (h : ∀ text ∈ m.recordName.plain :: time :: (statements s m rows).1.flatMap shownTexts,
      mentionsStaging text = false) :
    stagedAttributes (scriptOf s m time rows).content =
      distinct ((statements s m rows).1.map
        (fun t => t.objectName ++ "." ++ escaped t.attributeName)) := by
  simp only [List.forall_mem_cons] at h
  obtain ⟨hrecord, htime, hstatements⟩ := h
  rw [stagedAttributes_eq]
  refine congrArg distinct ((congrArg _ (readings_render hrecord htime hstatements)).trans ?_)
  rw [List.map_map]
  refine List.map_congr_left fun t ht => ?_
  obtain ⟨hobject, name, hname⟩ := upper_of_mem_statements ht
  have hescaped : String.ofList (doubled (Text.upper name).toList) = escaped (Text.upper name) := by
    rw [← toList_escaped, String.ofList_toList]
  rw [Function.comp_apply, doubledKey, undoubled_doubled, String.ofList_toList, hobject, hname,
    upper_doubled, hescaped]

/-- **What coverage reads back.** Where no text in a generated script spells the head of an INSERT,
coverage reads exactly the attributes of its statements, each once at its first occurrence, the
names with the quotes doubled that they have in the script. Without quotes in the names these are
the bindings of the statements. -/
theorem stagedAttributes_content {s : Settings} {m : Metadata} {time : String} {rows : List Row}
    {script : Script} (hgen : generate s m time rows = .ok script)
    (hquiet : ∀ text ∈ m.recordName.plain :: time :: script.statements.flatMap shownTexts,
      mentionsStaging text = false) :
    stagedAttributes script.content =
        distinct (script.statements.map (fun t => t.objectName ++ "." ++ escaped t.attributeName)) ∧
      ((∀ t ∈ script.statements, '\x27' ∉ t.attributeName.toList) →
        stagedAttributes script.content = distinct (script.statements.map (·.binding))) := by
  obtain ⟨-, -, rfl⟩ := generate_eq_ok_iff.mp hgen
  have hread := stagedAttributes_scriptOf hquiet
  refine ⟨hread, fun hplain => hread.trans (congrArg distinct (List.map_congr_left ?_))⟩
  intro t ht
  rw [escaped_of_notMem (hplain t ht)]
  rfl

/-- Labels with quotes, semicolons and values in them are no attributes. -/
theorem stagedAttributes_content_quoted_label :
    let m : Metadata := { recordName := .text "SR" }
    let rows : List Row := [{ fieldName := .text "ZZ_A", label := .text "it's; VALUES ('X', 'Y')" }]
    let script := scriptOf .builtin m "" rows
    generate .builtin m "" rows = .ok script ∧
      (∀ text ∈ m.recordName.plain :: "" :: script.statements.flatMap shownTexts,
        mentionsStaging text = false) ∧
      stagedAttributes script.content = ["SR.ZZ_A"] := by
  intro m rows script
  have hgen : generate .builtin m "" rows = .ok script :=
    generate_eq_ok_iff.mpr ⟨by decide +kernel, by decide +kernel, rfl⟩
  have hquiet : ∀ text ∈ m.recordName.plain :: "" :: script.statements.flatMap shownTexts,
      mentionsStaging text = false := by
    decide +kernel
  have hplain : ∀ t ∈ script.statements, '\x27' ∉ t.attributeName.toList := by
    decide +kernel
  refine ⟨hgen, hquiet, ((stagedAttributes_content hgen hquiet).2 hplain).trans ?_⟩
  decide +kernel

/-- A name with a quote comes back with two. -/
theorem stagedAttributes_quoted_name :
    let m : Metadata := { recordName := .text "SR" }
    let rows : List Row := [{ fieldName := .text "ZZ_A'B", label := .text "A" }]
    let script := scriptOf .builtin m "" rows
    generate .builtin m "" rows = .ok script ∧
      script.statements.map (·.binding) = ["SR.ZZ_A'B"] ∧
      stagedAttributes script.content = ["SR.ZZ_A''B"] := by
  intro m rows script
  have hquiet : ∀ text ∈ m.recordName.plain :: "" :: script.statements.flatMap shownTexts,
      mentionsStaging text = false := by
    decide +kernel
  exact ⟨generate_eq_ok_iff.mpr ⟨by decide +kernel, by decide +kernel, rfl⟩, by decide +kernel,
    (stagedAttributes_scriptOf hquiet).trans (by decide +kernel)⟩

end Formwork.Coverage
