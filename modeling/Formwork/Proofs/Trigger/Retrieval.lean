import Mathlib.Data.Bool.AllAny
import Formwork.Proofs.Text.Lexeme
import Formwork.Trigger.Statement

/-!
# Programs that read tables

A program may be a sequence of cursors and of selections into items, in any order. Both read columns
of one table. Their words are kept with what holds of their characters: the words of the language
may be written in any case of letters, and no name is one of them.
-/
namespace Formwork.Trigger

open Text.Match
open Form (Run Blanks)

/-! ## Words -/

/-- A word of the language. -/
inductive ReservedWord where
  | cursor
  | isWord
  | select
  | into
  | fromWord
  | distinct
  deriving DecidableEq

namespace ReservedWord

def letters : ReservedWord → List Char
  | cursor => "cursor".toList
  | isWord => "is".toList
  | select => "select".toList
  | into => "into".toList
  | fromWord => "from".toList
  | distinct => "distinct".toList

theorem isKeyChar_letters (w : ReservedWord) : w.letters.all Text.isKeyChar = true := by
  cases w <;> decide

theorem letters_ne_nil (w : ReservedWord) : w.letters ≠ [] := by
  cases w <;> decide

theorem isSmall_letters (w : ReservedWord) : ∀ c ∈ w.letters, c.toLower.toNat < 0x80 := by
  cases w <;> exact List.all_iff_forall_prop.mp (by decide)

theorem letters_injective {v w : ReservedWord}
    (h : v.letters.map Char.toLower = w.letters.map Char.toLower) : v = w := by
  revert h
  cases v <;> cases w <;> decide

end ReservedWord

/-- A text spells one word in small letters only. -/
theorem map_smallLetter_of_spells {key cs : List Char}
    (hkey : ∀ c ∈ key, c.toLower.toNat < 0x80) (h : Spells key cs) :
    cs.map Text.smallLetter = key.map Char.toLower := by
  induction h with
  | nil => rfl
  | cons hc _ ih =>
    obtain ⟨hw, hkey⟩ := List.forall_mem_cons.mp hkey
    rw [List.map_cons, List.map_cons, ih hkey, Text.toLower_of_sameLetter hw hc]

theorem ReservedWord.eq_of_spells {v w : ReservedWord} {cs : List Char}
    (hv : Spells v.letters cs) (hw : Spells w.letters cs) : v = w := by
  apply ReservedWord.letters_injective
  rw [← map_smallLetter_of_spells v.isSmall_letters hv,
    map_smallLetter_of_spells w.isSmall_letters hw]

/-- A word of the language as it is written. -/
structure Spelling (w : ReservedWord) where
  list : List Char
  spells : Spells w.letters list

/-- A name: characters of words, and no word of the language. -/
structure Identifier extends Run Text.isWordChar where
  plain : ∀ w : ReservedWord, ¬ Spells w.letters list

abbrev Gap := Run Text.isBlank

theorem Spelling.isWordChar {w : ReservedWord} (s : Spelling w) :
    ∀ c ∈ s.list, Text.isWordChar c = true :=
  s.spells.isWordChar w.isKeyChar_letters

theorem Spelling.ne_nil {w : ReservedWord} (s : Spelling w) : s.list ≠ [] := by
  intro hnil
  have hlength := s.spells.length_eq
  rw [hnil, List.length_nil] at hlength
  exact w.letters_ne_nil (List.length_eq_zero_iff.mp hlength)

/-! ## Statements -/

/-- A column with the comma behind it. -/
structure Column where
  name : Identifier
  before : Blanks
  after : Blanks

/-- The columns that are read. -/
structure ColumnList where
  init : List Column
  last : Identifier

/-- The words before the query of a cursor. -/
structure Opening where
  cursor : Spelling .cursor
  cursorGap : Gap
  name : Identifier
  nameGap : Gap
  isWord : Spelling .isWord
  isGap : Gap

/-- The item that a selection writes into. -/
structure Target where
  gap : Gap
  into : Spelling .into
  intoGap : Gap
  block : Identifier
  item : Identifier

inductive Role where
  | cursor (opening : Opening)
  | selection (target : Target)

/-- A cursor or a selection, with the blanks behind it. -/
structure Retrieval where
  role : Role
  select : Spelling .select
  selectGap : Gap
  columns : ColumnList
  fromGap : Gap
  fromWord : Spelling .fromWord
  tableGap : Gap
  table : Identifier
  after : Blanks

def Column.text (c : Column) : List Char :=
  c.name.list ++ (c.before.list ++ ',' :: c.after.list)

namespace ColumnList

def text (c : ColumnList) : List Char :=
  c.init.flatMap Column.text ++ c.last.list

/-- The names of the columns, as often as they are read. -/
def names (c : ColumnList) : List String :=
  (c.init.map (·.name) ++ [c.last]).map (fun i => String.ofList i.list)

end ColumnList

def Opening.text (o : Opening) : List Char :=
  o.cursor.list ++ (o.cursorGap.list ++ (o.name.list ++ (o.nameGap.list ++
    (o.isWord.list ++ o.isGap.list))))

def Target.text (t : Target) : List Char :=
  t.gap.list ++ (t.into.list ++ (t.intoGap.list ++ ':' :: (t.block.list ++ '.' :: t.item.list)))

namespace Retrieval

def isCursor (r : Retrieval) : Bool :=
  match r.role with
  | .cursor _ => true
  | .selection _ => false

/-- What stands before the query: the words that open a cursor, if it is one. -/
def opening (r : Retrieval) : List Char :=
  match r.role with
  | .cursor o => o.text
  | .selection _ => []

/-- What stands behind the columns: the item, if it is a selection. -/
def target (r : Retrieval) : List Char :=
  match r.role with
  | .cursor _ => []
  | .selection t => t.text

/-- The query from its first column to the table. -/
def body (r : Retrieval) : List Char :=
  r.columns.text ++ (r.target ++ (r.fromGap.list ++ (r.fromWord.list ++
    (r.tableGap.list ++ r.table.list))))

def query (r : Retrieval) : List Char :=
  r.select.list ++ (r.selectGap.list ++ r.body)

def text (r : Retrieval) : List Char :=
  r.opening ++ (r.query ++ ';' :: r.after.list)

/-- The statement that reports a cursor or selection: its text, a cursor with its semicolon, its
table in small letters, and its columns, each once. -/
def statement (r : Retrieval) : Statement where
  kind := if r.isCursor then .cursor else .select
  text := String.ofList (r.opening ++ r.query ++ if r.isCursor then [';'] else [])
  tables := [Text.lower (String.ofList r.table.list)]
  fields := distinct r.columns.names

end Retrieval

/-- A program of cursors and selections, with the blanks before them. -/
structure RetrievalList where
  lead : Blanks
  retrievals : List Retrieval

namespace RetrievalList

def text (p : RetrievalList) : List Char :=
  p.lead.list ++ p.retrievals.flatMap Retrieval.text

def cursors (p : RetrievalList) : List Retrieval :=
  p.retrievals.filter (·.isCursor)

def selections (p : RetrievalList) : List Retrieval :=
  p.retrievals.filter (fun r => !r.isCursor)

end RetrievalList

/-! ## The words of a statement -/

/-- A word of the language and what stands behind it. -/
def Spelling.lexeme {w : ReservedWord} (s : Spelling w) (sep : Run isOuterChar) : Lexeme where
  word := { list := s.list, all := s.isWordChar, ne_nil := s.ne_nil }
  sep

def Identifier.lexeme (i : Identifier) (sep : Run isOuterChar) : Lexeme where
  word := i.toRun
  sep

/-- Blanks as what stands between words. -/
def blankSep (g : Gap) : Run isOuterChar where
  list := g.list
  all c hc := by simp [isOuterChar, Text.isWordChar_of_isBlank (g.all c hc)]
  ne_nil := g.ne_nil

/-- A sign with blanks around it as what stands between words. -/
def signSep (before : Blanks) (c : Char) (after : Blanks) (hc : isOuterChar c = true) :
    Run isOuterChar where
  list := before.list ++ c :: after.list
  all := by
    have hblank (b : Blanks) : ∀ d ∈ b.list, isOuterChar d = true := by
      intro d hd
      simp [isOuterChar, Text.isWordChar_of_isBlank (b.all d hd)]
    rw [List.forall_mem_append, List.forall_mem_cons]
    exact ⟨hblank before, hc, hblank after⟩
  ne_nil := by simp

def noBlanks : Blanks := ⟨[], by simp⟩

def Column.lexeme (c : Column) : Lexeme :=
  c.name.lexeme (signSep c.before ',' c.after (by decide))

def Opening.lexemes (o : Opening) : List Lexeme :=
  [o.cursor.lexeme (blankSep o.cursorGap), o.name.lexeme (blankSep o.nameGap),
    o.isWord.lexeme (blankSep o.isGap)]

namespace ColumnList

theorem text_eq_spread (c : ColumnList) :
    c.text = spread (c.init.map Column.lexeme) ++ c.last.list := by
  rw [text, spread, List.flatMap_map]
  rfl

theorem plain (c : ColumnList) (w : ReservedWord) :
    ∀ l ∈ c.init.map Column.lexeme, ¬ Spells w.letters l.word.list := by
  intro l hl
  obtain ⟨i, -, rfl⟩ := List.mem_map.mp hl
  exact i.name.plain w

end ColumnList

namespace Retrieval

theorem exists_opening {r : Retrieval} (h : r.isCursor = true) : ∃ o, r.role = .cursor o := by
  unfold isCursor at h
  cases hrole : r.role with
  | cursor o => exact ⟨o, rfl⟩
  | selection t =>
    rw [hrole] at h
    cases h

theorem exists_target {r : Retrieval} (h : r.isCursor = false) : ∃ t, r.role = .selection t := by
  unfold isCursor at h
  cases hrole : r.role with
  | cursor o =>
    rw [hrole] at h
    cases h
  | selection t => exact ⟨t, rfl⟩

/-- The table and what closes a statement. -/
def closing (r : Retrieval) : Lexeme :=
  r.table.lexeme (signSep noBlanks ';' r.after (by decide))

/-- The words from the last column to the word `from`. -/
def middle (r : Retrieval) : List Lexeme :=
  match r.role with
  | .cursor _ => [r.columns.last.lexeme (blankSep r.fromGap)]
  | .selection t =>
    [r.columns.last.lexeme (blankSep t.gap),
      t.into.lexeme (signSep t.intoGap.toChars ':' noBlanks (by decide)),
      t.block.lexeme (signSep noBlanks '.' noBlanks (by decide)),
      t.item.lexeme (blankSep r.fromGap)]

/-- The words of a statement before the word `select`. -/
def openingWords (r : Retrieval) : List Lexeme :=
  match r.role with
  | .cursor o => o.lexemes
  | .selection _ => []

/-- The words of a statement behind the word `select`. -/
def words (r : Retrieval) : List Lexeme :=
  r.columns.init.map Column.lexeme ++
    (r.middle ++ [r.fromWord.lexeme (blankSep r.tableGap), r.closing])

def lexemes (r : Retrieval) : List Lexeme :=
  r.openingWords ++ r.select.lexeme (blankSep r.selectGap) :: r.words

/-- The words of a statement before the table. -/
def frontWords (r : Retrieval) : List Lexeme :=
  r.openingWords ++ r.select.lexeme (blankSep r.selectGap) ::
    (r.columns.init.map Column.lexeme ++ (r.middle ++ [r.fromWord.lexeme (blankSep r.tableGap)]))

theorem spread_words (r : Retrieval) : spread r.words = r.body ++ ';' :: r.after.list := by
  have hcolumns : spread (r.columns.init.map Column.lexeme) =
      r.columns.init.flatMap Column.text := by
    rw [spread, List.flatMap_map]
    rfl
  rw [words, spread_append, hcolumns]
  unfold middle body target
  cases r.role with
  | cursor o =>
    simp [spread, Lexeme.text, Spelling.lexeme, Identifier.lexeme, closing, blankSep, signSep,
      noBlanks, ColumnList.text]
  | selection t =>
    simp [spread, Lexeme.text, Spelling.lexeme, Identifier.lexeme, closing, blankSep, signSep,
      noBlanks, Target.text, ColumnList.text]

theorem spread_openingWords (r : Retrieval) : spread r.openingWords = r.opening := by
  unfold openingWords opening
  cases r.role with
  | cursor o =>
    simp [spread, Opening.lexemes, Lexeme.text, Spelling.lexeme, Identifier.lexeme, blankSep,
      Opening.text]
  | selection t => rfl

theorem spread_lexemes (r : Retrieval) : spread r.lexemes = r.text := by
  have hselect : (r.select.lexeme (blankSep r.selectGap)).word.list = r.select.list := rfl
  have hgap : (r.select.lexeme (blankSep r.selectGap)).sep.list = r.selectGap.list := rfl
  rw [lexemes, spread_append, spread_cons, spread_words, spread_openingWords, hselect, hgap]
  simp only [text, query, List.append_assoc]

theorem spread_flatMap_lexemes (rs : List Retrieval) :
    spread (rs.flatMap lexemes) = rs.flatMap text := by
  induction rs with
  | nil => rfl
  | cons r rs ih => rw [List.flatMap_cons, spread_append, spread_lexemes, ih, List.flatMap_cons]

/-- Behind a statement the program ends, or another word follows. -/
theorem startsWord_flatMap (rs : List Retrieval) :
    rs.flatMap text = [] ∨ StartsWord (rs.flatMap text) := by
  have h := @startsWord_spread [] (Or.inl rfl) (rs.flatMap lexemes)
  rwa [List.append_nil, spread_flatMap_lexemes] at h

theorem lexemes_eq_concat (r : Retrieval) : r.lexemes = r.frontWords ++ [r.closing] := by
  simp [lexemes, words, frontWords]

/-- A statement ends with a semicolon. -/
theorem closed_lexemes (r : Retrieval) : Closed r.lexemes := by
  have hlast : r.lexemes.getLast? = some r.closing := by
    rw [lexemes_eq_concat, List.getLast?_concat]
  exact ⟨r.closing, hlast, ';', by simp [closing, Identifier.lexeme, signSep], by decide⟩

/-- Of the words of the language only `from` and `into` stand behind the word `select`. -/
theorem eq_of_spells_words {r : Retrieval} {l : Lexeme} (hl : l ∈ r.words) {w : ReservedWord}
    (h : Spells w.letters l.word.list) :
    w = .fromWord ∨ w = .into ∧ r.isCursor = false := by
  have hplain (i : Identifier) (sep : Run isOuterChar) (heq : l = i.lexeme sep) : False := by
    rw [heq] at h
    exact i.plain w h
  rw [words, List.mem_append, List.mem_append, List.mem_map] at hl
  rcases hl with ⟨c, -, rfl⟩ | hl | hl
  · exact (hplain c.name _ rfl).elim
  · unfold middle at hl
    unfold isCursor
    cases hrole : r.role with
    | cursor o =>
      rw [hrole, List.mem_singleton] at hl
      exact (hplain _ _ hl).elim
    | selection t =>
      simp only [hrole, List.mem_cons, List.not_mem_nil, or_false] at hl
      rcases hl with hl | rfl | hl | hl
      · exact (hplain _ _ hl).elim
      · exact Or.inr ⟨ReservedWord.eq_of_spells h t.into.spells, rfl⟩
      · exact (hplain _ _ hl).elim
      · exact (hplain _ _ hl).elim
  · simp only [List.mem_cons, List.not_mem_nil, or_false] at hl
    rcases hl with rfl | hl
    · exact Or.inl (ReservedWord.eq_of_spells h r.fromWord.spells)
    · exact (hplain _ _ hl).elim

/-- Of the words of the language only `cursor` and `is` stand before the word `select`. -/
theorem eq_of_spells_openingWords {r : Retrieval} {l : Lexeme} (hl : l ∈ r.openingWords)
    {w : ReservedWord} (h : Spells w.letters l.word.list) : w = .cursor ∨ w = .isWord := by
  unfold openingWords at hl
  cases hrole : r.role with
  | selection t =>
    rw [hrole] at hl
    cases hl
  | cursor o =>
    simp only [hrole, Opening.lexemes, List.mem_cons, List.not_mem_nil, or_false] at hl
    rcases hl with rfl | rfl | rfl
    · exact Or.inl (ReservedWord.eq_of_spells h o.cursor.spells)
    · exact absurd h (o.name.plain w)
    · exact Or.inr (ReservedWord.eq_of_spells h o.isWord.spells)

end Retrieval

/-! ## Reading words -/

section Reading

variable {α : Type} {rest : List Char} {a : α}

theorem blanks1_gap {k : Rest α} (g : Gap) (hrest : ∀ c ∈ rest.head?, Text.isBlank c = false)
    (h : k rest = some a) : blanks1 k (g.list ++ rest) = some a := by
  obtain ⟨c, cs, hcons⟩ := List.exists_cons_of_ne_nil g.ne_nil
  obtain ⟨hc, hcs⟩ := List.forall_mem_cons.mp (hcons ▸ g.all)
  rw [hcons, List.cons_append, blanks1, many1, if_pos hc]
  exact many_append cs hcs hrest h

theorem letters_spelling {w : ReservedWord} (s : Spelling w) (k : Rest α) (rest : List Char) :
    letters w.letters k (s.list ++ rest) = k rest :=
  letters_append s.spells k rest

theorem startsWord_spelling {w : ReservedWord} (s : Spelling w) (rest : List Char) :
    StartsWord (s.list ++ rest) :=
  startsWord_append s.ne_nil s.isWordChar rest

theorem startsWord_identifier (i : Identifier) (rest : List Char) : StartsWord (i.list ++ rest) :=
  startsWord_append i.ne_nil i.all rest

theorem startsWord_columns (c : ColumnList) (rest : List Char) : StartsWord (c.text ++ rest) := by
  rw [c.text_eq_spread, List.append_assoc]
  exact (startsWord_identifier c.last rest).spread_append _

theorem startsWord_body (r : Retrieval) (rest : List Char) : StartsWord (r.body ++ rest) := by
  rw [Retrieval.body, List.append_assoc]
  exact startsWord_columns r.columns _

theorem head_gap (g : Gap) (rest : List Char) :
    ∀ c ∈ (g.list ++ rest).head?, Text.isWordChar c = false := by
  obtain ⟨d, ds, hcons⟩ := List.exists_cons_of_ne_nil g.ne_nil
  intro c hc
  rw [hcons, List.cons_append, List.head?_cons, Option.mem_some_iff] at hc
  exact Text.isWordChar_of_isBlank (g.all c (by simp [hcons, hc]))

/-- A name is read as far as it goes. -/
theorem name_of_some {k : List Char → Rest α} (i : Identifier)
    (hrest : ∀ c ∈ rest.head?, Text.isWordChar c = false) (h : k i.list rest = some a) :
    name k (i.list ++ rest) = some a := by
  obtain ⟨c, cs, hcons⟩ := List.exists_cons_of_ne_nil i.ne_nil
  obtain ⟨hc, hcs⟩ := List.forall_mem_cons.mp (hcons ▸ i.all)
  rw [hcons] at h ⊢
  rw [List.cons_append, name, many1, if_pos hc]
  exact many_append cs hcs hrest h

theorem name_identifier {k : List Char → Rest α} (hk : ∀ run, StopsWord (k run)) (i : Identifier)
    (hrest : ∀ c ∈ rest.head?, Text.isWordChar c = false) :
    name k (i.list ++ rest) = k i.list rest :=
  many1_of_stops hk i.ne_nil i.all hrest

/-- A short run goes on up to the first word of the language of its kind. -/
theorem gap_until {w : ReservedWord} {k : List Char → Rest α} (hk : ∀ run, StopsWord (k run))
    {ls : List Lexeme} {i : Identifier} (hls : ∀ l ∈ ls, ¬ Spells w.letters l.word.list) (g : Gap)
    (s : Spelling w) (h : k (spread ls ++ i.list) rest = some a) :
    gap (fun run => blanks1 (letters w.letters (k run)))
      (spread ls ++ (i.list ++ (g.list ++ (s.list ++ rest)))) = some a := by
  have hpass : ∀ front t, spread ls ++ i.list = front ++ t → t ≠ [] →
      blanks1 (letters w.letters (k front)) (t ++ (g.list ++ (s.list ++ rest))) = none := by
    intro front t hsplit hne
    obtain ⟨c, t, rfl⟩ := List.exists_cons_of_ne_nil hne
    rcases cons_suffix_append (⟨front, hsplit.symm⟩ : c :: t <:+ spread ls ++ i.list) with ht | ht
    · exact stopsWord_blanks1 _ c _ (i.all c (ht.subset List.mem_cons_self))
    · obtain ⟨run, hrun, rfl⟩ := ht
      have hnot : letters w.letters (k front) (i.list ++ (g.list ++ (s.list ++ rest))) = none := by
        by_contra hread
        exact i.plain w ((letters_spread_isSome w.isKeyChar_letters (hk front)
          (i.lexeme (blankSep g)) _).mp (Option.isSome_iff_ne_none.mpr hread)).1
      have hskip := blanks1_letters_eq_none w.isKeyChar_letters w.letters_ne_nil (hk front)
        (Or.inr (startsWord_identifier i (g.list ++ (s.list ++ rest)))) hls hnot hrun (by simp)
      rwa [← List.append_assoc] at hskip
  rw [← List.append_assoc, gap, few_pass (by simp) hpass]
  apply few_of_isSome
  rw [List.append_nil]
  apply blanks1_gap g (startsWord_spelling s rest).head_ne_blank
  rw [letters_spelling, h]

end Reading

end Formwork.Trigger
