import Formwork.Proofs.Text.Blank
import Formwork.Proofs.Trigger.Retrieval

/-!
# The columns and the table of a query

Of a list of names between commas each name is read once, and of the word `from` with a name behind
it the name is read as the only table.
-/
namespace Formwork.Trigger

open Text.Match
open Form (Blanks)

variable {α : Type}

/-! ## Texts without blanks at their ends -/

theorem trimmed_eq_self {cs : List Char} (hfirst : ∀ c ∈ cs.head?, Text.isBlank c = false)
    (hlast : ∀ c ∈ cs.getLast?, Text.isBlank c = false) : trimmed cs = String.ofList cs := by
  rw [trimmed, Text.trim, String.toList_ofList, Text.stripWhere_eq_self hfirst hlast]

theorem trimmed_identifier (before after : Blanks) (i : Identifier) :
    trimmed (before.list ++ (i.list ++ after.list)) = String.ofList i.list := by
  have hword : ∀ c ∈ i.list, Text.isBlank c = false := fun c hc =>
    Text.isBlank_of_isWordChar (i.all c hc)
  rw [trimmed, Text.trim, String.toList_ofList, Text.stripWhere_between before.all after.all
    (fun c hc => hword c (List.mem_of_head? hc)) (fun c hc => hword c (List.mem_of_getLast? hc))]

/-! ## Columns -/

theorem splitAt_of_notMem {cs : List Char} (h : ',' ∉ cs) : parts.splitAt cs = [cs] := by
  induction cs with
  | nil => rfl
  | cons c cs ih =>
    rw [List.mem_cons, not_or] at h
    have hc : (c == ',') = false := by simpa using Ne.symm h.1
    rw [parts.splitAt, ih h.2, hc]
    rfl

theorem splitAt_append {cs : List Char} (h : ',' ∉ cs) (rest : List Char) :
    parts.splitAt (cs ++ ',' :: rest) = cs :: parts.splitAt rest := by
  induction cs with
  | nil => rfl
  | cons c cs ih =>
    rw [List.mem_cons, not_or] at h
    have hc : (c == ',') = false := by simpa using Ne.symm h.1
    rw [List.cons_append, parts.splitAt, ih h.2, hc]
    rfl

theorem comma_notMem_identifier (i : Identifier) : ',' ∉ i.list :=
  fun h => absurd (i.all _ h) (by decide)

theorem comma_notMem_blanks (b : Blanks) : ',' ∉ b.list :=
  fun h => absurd (b.all _ h) (by decide)

/-- Between the commas of a list of columns stand their names and blanks. -/
theorem map_trim_splitAt (before : Blanks) (init : List Column) (last : Identifier) :
    (parts.splitAt (before.list ++ (init.flatMap Column.text ++ last.list))).map trimmed =
      (init.map (·.name) ++ [last]).map (fun i => String.ofList i.list) := by
  induction init generalizing before with
  | nil =>
    rw [List.flatMap_nil, List.nil_append, splitAt_of_notMem]
    · have h := trimmed_identifier before noBlanks last
      rw [noBlanks, List.append_nil] at h
      simp [h]
    · simp [comma_notMem_identifier, comma_notMem_blanks]
  | cons c init ih =>
    have hsplit : before.list ++ ((c :: init).flatMap Column.text ++ last.list) =
        (before.list ++ (c.name.list ++ c.before.list)) ++
          ',' :: (c.after.list ++ (init.flatMap Column.text ++ last.list)) := by
      simp [Column.text]
    rw [hsplit, splitAt_append, List.map_cons, trimmed_identifier, ih]
    · rfl
    · simp [comma_notMem_identifier, comma_notMem_blanks]

/-- The name of a column that stands alone is read. -/
theorem columnOf?_identifier (i : Identifier) :
    columnOf? (String.ofList i.list) = some (String.ofList i.list) := by
  have hname {k : List Char → Rest (List Char)} (hk : ∀ run, StopsWord (k run)) :
      name k i.list = k i.list [] := by
    have h := @name_identifier _ [] _ hk i (by simp)
    rwa [List.append_nil] at h
  have hdotted (k : List Char → Rest (List Char)) : dottedName k i.list = none := by
    refine hname fun run c rest hc => if_neg ?_
    rw [beq_iff_eq]
    rintro rfl
    cases hc
  have hcolumn {k : List Char → Rest (List Char)} (hk : ∀ run, StopsWord (k run)) :
      column k i.list = k i.list [] := by
    show (dottedName k i.list <|> name k i.list) = _
    rw [hdotted, hname hk]
    rfl
  have hend : ∀ run : List Char, StopsWord (atEnd fun _ => some run) := fun run c rest _ => rfl
  rw [columnOf?, String.toList_ofList, hcolumn fun _ => stopsWord_blanks1 _, hcolumn hend]
  rfl

/-- No column is the word `distinct`. -/
theorem removeAll_distinct (c : ColumnList) :
    removeAll (fun before => wordEdge before <| word "distinct" <| wordEdge (some 't') <| found ())
      c.text = c.text := by
  have hkey := ReservedWord.distinct.isKeyChar_letters
  have hedge : StopsWord (wordEdge (some 't') (found ())) := by
    intro d rest hd
    have hno : isWordEdge (some 't') (d :: rest) = false := by
      rw [isWordEdge, List.head?_cons, Option.any_some, Option.any_some, hd]
      rfl
    rw [wordEdge, hno, if_neg Bool.false_ne_true]
  have hlast (left : List Char) {right : List Char} {before : Option Char}
      (hsplit : c.last.list = left ++ right) (hne : right ≠ []) : wordEdge (left.getLast?.or before)
        (letters ReservedWord.distinct.letters (wordEdge (some 't') (found ()))) right = none := by
    by_contra hread
    rw [← List.append_nil right] at hread
    obtain ⟨rfl, hspells, -⟩ := wordEdge_letters_isSome hkey hedge hne
      (fun d hd => c.last.all d (by rw [hsplit]; exact hd)) (by simp)
      (Option.isSome_iff_ne_none.mpr hread)
    exact c.last.plain .distinct (by rw [hsplit]; exact hspells)
  have hnone : findAll (fun before => wordEdge before <| word "distinct" <|
      wordEdge (some 't') <| found ()) c.text = [] := by
    rw [findAll, ← List.append_nil c.text, findFrom_pass, findFrom]
    intro front t hsplit hne
    rw [List.append_nil]
    rw [c.text_eq_spread] at hsplit
    rcases List.append_eq_append_iff.mp hsplit with ⟨left, rfl, hright⟩ | ⟨right, hinit, rfl⟩
    · rw [List.getLast?_append, Option.or_assoc]
      exact hlast left hright hne
    · by_cases hnil : right = []
      · rw [hnil]
        exact hlast [] rfl c.last.ne_nil
      · exact wordEdge_letters_eq_none hkey ReservedWord.distinct.letters_ne_nil hedge
          (c.plain .distinct) hinit hnil none c.last.list
  rw [removeAll, hnone]
  simp

theorem trimmed_columns (c : ColumnList) : trimmed c.text = String.ofList c.text := by
  refine trimmed_eq_self ?_ fun d hd => ?_
  · have h := startsWord_columns c []
    rw [List.append_nil] at h
    exact h.head_ne_blank
  · rw [ColumnList.text, List.getLast?_append_of_ne_nil _ c.last.ne_nil] at hd
    exact Text.isBlank_of_isWordChar (c.last.all d (List.mem_of_getLast? hd))

/-- The columns that are read of a list are its names, each once. -/
theorem selectedColumns_text (c : ColumnList) :
    selectedColumns (String.ofList c.text) = distinct c.names := by
  have htrim : Text.trim (String.ofList c.text) = String.ofList c.text := trimmed_columns c
  have hentries : (parts.splitAt c.text).map trimmed = c.names := by
    have h := map_trim_splitAt noBlanks c.init c.last
    rwa [noBlanks, List.nil_append] at h
  have hread : c.names.filterMap columnOf? = c.names := by
    have hsome : columnOf? ∘ (fun i : Identifier => String.ofList i.list) =
        some ∘ fun i => String.ofList i.list := funext columnOf?_identifier
    rw [ColumnList.names, List.filterMap_map, hsome, List.filterMap_eq_map]
  have hcolumns : (parts (String.ofList c.text)).filterMap (fun entry =>
      columnOf? (Text.trim entry)) = c.names := by
    calc (parts (String.ofList c.text)).filterMap (fun entry => columnOf? (Text.trim entry))
        = ((parts.splitAt c.text).map trimmed).filterMap columnOf? := by
          rw [parts, String.toList_ofList, List.filterMap_map, List.filterMap_map]
          rfl
      _ = c.names := by rw [hentries, hread]
  rw [selectedColumns, String.toList_ofList, removeAll_distinct, htrim, hcolumns]

/-- The table that is read behind the word `from` is the name that stands there. -/
theorem tablesIn_from (i : Identifier) :
    tablesIn ("from " ++ String.ofList i.list) = [Text.lower (String.ofList i.list)] := by
  have hname : name (fun t => found t) i.list = some (i.list, []) := by
    have h : name (fun t => found t) (i.list ++ []) = some (i.list, []) :=
      name_of_some i (by simp) rfl
    rwa [List.append_nil] at h
  have hmatch : (word "from" <| blanks1 <| name fun t => found t)
      (("from ".toList ++ i.list) ++ []) = some (i.list, []) := by
    have hsplit : ("from ".toList ++ i.list) ++ [] = "from".toList ++ ' ' :: i.list := by simp
    rw [hsplit, word, letters_self]
    refine blanks1_cons (by decide) (fun c hc => ?_) hname
    exact Text.isBlank_of_isWordChar (i.all c (List.mem_of_head? hc))
  have htext : ("from " ++ String.ofList i.list).toList = ("from ".toList ++ i.list) ++ [] := by
    rw [String.toList_append, List.append_nil]
    exact congrArg _ String.toList_ofList
  rw [tablesIn, htext, findAll, findFrom_hit (by simp) hmatch, findFrom_nil]
  rfl

end Formwork.Trigger
