import Formwork.Diagram.Derive
import Formwork.Proofs.Text.Word

/-!
# The table of a query

A query is about the table that it names first. The name stands behind the word `from` and blanks,
where `from` is not the end of a longer word, and goes on as far as it can.
-/
namespace Formwork.Diagram

open Text.Match

def IsTableName (name : List Char) : Prop :=
  ∃ c run, name = c :: run ∧ startsTableName c = true ∧ ∀ d ∈ run, isTableNameChar d = true

/-- A text behind a character begins with the word `from` and the name of a table, and `rest` is
left of it. -/
def BeginsWithTable (before : Option Char) (cs name rest : List Char) : Prop :=
  (∀ c ∈ before, Text.isWordChar c = false) ∧
    ∃ word gap, cs = word ++ (gap ++ (name ++ rest)) ∧ Spells "FROM".toList word ∧
      gap ≠ [] ∧ (∀ c ∈ gap, Text.isBlank c = true) ∧
      IsTableName name ∧ ∀ c ∈ rest.head?, isTableNameChar c = false

def NamesTable (before : Option Char) (cs name : List Char) : Prop :=
  ∃ rest, BeginsWithTable before cs name rest

/-- The table of a query: the first that it names, in upper case, or none. -/
def IsTableOf (query table : String) : Prop :=
  (∃ name, FirstAt NamesTable none query.toList name ∧ table = Text.upper (String.ofList name)) ∨
    (∀ pre cs name, query.toList = pre ++ cs → ¬ NamesTable pre.getLast? cs name) ∧ table = ""

/-! ## Reading a name -/

/-- Read the name of a table. -/
def tableName : Rest (List Char × List Char) :=
  tableOfQuery.initial fun first =>
    many isTableNameChar fun rest => fun after => some (first :: rest, after)

/-- Read the word `from` and the name behind it. -/
def tableAhead (before : Option Char) : Rest (List Char × List Char) :=
  wordEdge before <| word "FROM" <| blanks1 tableName

theorem tableOfQuery_eq (query : String) :
    tableOfQuery query = (((Text.Match.find? tableAhead query.toList).map (·.value)).map
      (fun name => Text.upper (String.ofList name))).getD "" := by
  rw [Option.map_map]
  rfl

theorem tableName_eq_some {cs name rest : List Char} :
    tableName cs = some (name, rest) ↔
      cs = name ++ rest ∧ IsTableName name ∧ ∀ c ∈ rest.head?, isTableNameChar c = false := by
  constructor
  · intro h
    cases cs with
    | nil => cases h
    | cons c cs =>
      rw [tableName, tableOfQuery.initial] at h
      split at h
      · next hc =>
        rw [many_of_total fun _ _ => rfl] at h
        obtain ⟨rfl, rfl⟩ := Prod.mk.inj (Option.some.inj h)
        refine ⟨by simp, ⟨c, _, rfl, hc, List.all_eq_true.mp List.all_takeWhile⟩, ?_⟩
        intro d hd
        have hstop := List.head?_dropWhile_not isTableNameChar cs
        rw [Option.mem_def.mp hd] at hstop
        simpa using hstop
      · cases h
  · rintro ⟨rfl, ⟨c, run, rfl, hc, hrun⟩, hrest⟩
    rw [List.cons_append, tableName, tableOfQuery.initial, if_pos hc]
    exact many_append run hrun hrest rfl

/-- No name starts with a blank. -/
theorem startsTableName_of_isBlank {c : Char} (h : Text.isBlank c = true) :
    startsTableName c = false := by
  simp only [Text.isBlank, Bool.or_eq_true, Bool.and_eq_true, decide_eq_true_eq, beq_iff_eq] at h
  by_contra hstarts
  unfold startsTableName Char.isAlpha Char.isUpper Char.isLower at hstarts
  simp only [Bool.not_eq_false, Bool.or_eq_true, Bool.and_eq_true, decide_eq_true_eq,
    beq_iff_eq] at hstarts
  rcases hstarts with
    (((((⟨hfirst, hlast⟩ | ⟨hfirst, hlast⟩) | hlow) | hwide) | hwide) | hwide) | hwide
  · have hfirst : 65 ≤ c.toNat := hfirst
    have hlast : c.toNat ≤ 90 := hlast
    omega
  · have hfirst : 97 ≤ c.toNat := hfirst
    have hlast : c.toNat ≤ 122 := hlast
    omega
  · have hlow : c.toNat = 95 := congrArg Char.toNat hlow
    omega
  all_goals omega

theorem isWordEdge_of_spells {before : Option Char} {word rest : List Char}
    (h : Spells "FROM".toList word) :
    isWordEdge before (word ++ rest) = true ↔ ∀ c ∈ before, Text.isWordChar c = false := by
  cases h with
  | cons hfirst _ =>
    have hword := Text.isWordChar_of_sameLetter (by decide) hfirst
    cases before <;> simp [isWordEdge, hword]

theorem tableAhead_eq_some {before : Option Char} {cs name rest : List Char} :
    tableAhead before cs = some (name, rest) ↔ BeginsWithTable before cs name rest := by
  have hstuck : ∀ c rest, Text.isBlank c = true → tableName (c :: rest) = none := by
    intro c rest hc
    rw [tableName, tableOfQuery.initial, startsTableName_of_isBlank hc]
    rfl
  rw [tableAhead, wordEdge]
  constructor
  · intro h
    split at h
    · next hedge =>
      obtain ⟨word, tail, rfl, hword, h⟩ := letters_eq_some.mp h
      obtain ⟨gap, tail, rfl, hne, hgap, h⟩ := (blanks1_eq_some hstuck).mp h
      obtain ⟨rfl, hname, hrest⟩ := tableName_eq_some.mp h
      exact ⟨(isWordEdge_of_spells hword).mp hedge, word, gap, rfl, hword, hne, hgap, hname, hrest⟩
    · cases h
  · rintro ⟨hbefore, word, gap, rfl, hword, hne, hgap, hname, hrest⟩
    rw [if_pos ((isWordEdge_of_spells hword).mpr hbefore)]
    refine letters_eq_some.mpr ⟨word, _, rfl, hword, ?_⟩
    refine (blanks1_eq_some hstuck).mpr ⟨gap, _, rfl, hne, hgap, ?_⟩
    exact tableName_eq_some.mpr ⟨rfl, hname, hrest⟩

/-! ## The first name -/

theorem finds_tableAhead : Finds tableAhead NamesTable where
  iff _ _ _ := exists_congr fun _ => tableAhead_eq_some.symm
  shorter before cs name rest h := by
    obtain ⟨-, word, gap, rfl, -, hne, -⟩ := tableAhead_eq_some.mp h
    have hpos := List.length_pos_of_ne_nil hne
    simp only [List.length_append]
    omega

/-- What `tableOfQuery` gives is the table of the query, and no other text is. -/
theorem isTableOf_iff {query table : String} :
    IsTableOf query table ↔ table = tableOfQuery query := by
  have hfirst : ∀ name, (Text.Match.find? tableAhead query.toList).map (·.value) = some name ↔
      FirstAt NamesTable none query.toList name := fun _ => find?_eq_some finds_tableAhead
  rw [tableOfQuery_eq, IsTableOf]
  cases hfind : (Text.Match.find? tableAhead query.toList).map (·.value) with
  | none =>
    have hnone : ∀ name, ¬ FirstAt NamesTable none query.toList name := by
      intro name hname
      rw [(hfirst name).mpr hname] at hfind
      cases hfind
    constructor
    · rintro (⟨name, hname, -⟩ | ⟨-, rfl⟩)
      · exact absurd hname (hnone name)
      · rfl
    · rintro rfl
      refine Or.inr ⟨fun pre cs name hsplit h => ?_, rfl⟩
      have h : NamesTable (pre.getLast?.or none) cs name := by rwa [Option.or_none]
      obtain ⟨first, hname⟩ := exists_firstAt hsplit h
      exact hnone first hname
  | some found =>
    have hfound := (hfirst found).mp hfind
    constructor
    · rintro (⟨name, hname, rfl⟩ | ⟨hno, -⟩)
      · rw [Option.some.inj (hfind.symm.trans ((hfirst name).mpr hname))]
        rfl
      · obtain ⟨pre, cs, hsplit, h, -⟩ := hfound
        rw [Option.or_none] at h
        exact absurd h (hno pre cs found hsplit)
    · rintro rfl
      exact Or.inl ⟨found, hfound, rfl⟩

example : tableOfQuery "select date_from y from  hr.emp e" = "HR.EMP" := by decide +kernel

end Formwork.Diagram
