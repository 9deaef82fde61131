import Mathlib.Data.List.DropRight
import Formwork.Proofs.Form.Document
import Formwork.Proofs.Text.Blank
import Formwork.Proofs.Text.Word
import Formwork.Trigger.Rule

/-!
# Programs that do nothing and programs that pass a key on

Programs without rules have one of two forms: the word `null`, or one call of `do_key` with an
argument, in both cases with a semicolon or without. The summary looks at a program without the
blanks at its ends. It finds the same programs that do nothing, but of the call it sees the opening
only, whatever follows the parenthesis.
-/
namespace Formwork.Trigger

open Text.Match
open Form (Chars Run Blanks)

def semicolon (closed : Bool) : List Char :=
  if closed then [';'] else []

/-- A program that does nothing. -/
structure NullProgram where
  before : Blanks
  word : List Char
  spells : Spells "null".toList word
  gap : Blanks
  closed : Bool
  after : Blanks

/-- The opening of a call that passes a key on, up to the parenthesis. -/
structure KeyOpening where
  before : Blanks
  word : List Char
  spells : Spells "do_key".toList word
  gap : Blanks

/-- The rest of a program that only passes a key on. -/
structure KeyEnding where
  arguments : Run (· != ')')
  gap : Blanks
  closed : Bool
  after : Blanks

def NullProgram.text (n : NullProgram) : List Char :=
  n.before.list ++ (n.word ++ (n.gap.list ++ (semicolon n.closed ++ n.after.list)))

def KeyOpening.text (k : KeyOpening) : List Char :=
  k.before.list ++ (k.word ++ (k.gap.list ++ ['(']))

def KeyEnding.text (e : KeyEnding) : List Char :=
  e.arguments.list ++ ')' :: (e.gap.list ++ (semicolon e.closed ++ e.after.list))

def IsNull (body : String) : Prop :=
  ∃ n : NullProgram, body.toList = n.text

/-- Whether a program begins as one that passes a key on. -/
def OpensKey (body : String) : Prop :=
  ∃ (k : KeyOpening) (rest : List Char), body.toList = k.text ++ rest

def IsKeyOnly (body : String) : Prop :=
  ∃ (k : KeyOpening) (e : KeyEnding), body.toList = k.text ++ e.text

theorem IsKeyOnly.opensKey {body : String} (h : IsKeyOnly body) : OpensKey body := by
  obtain ⟨k, e, hsplit⟩ := h
  exact ⟨k, e.text, hsplit⟩

/-! ## Programs without rules -/

theorem optional_semicolon_isSome {k : Rest Unit} {cs : List Char} :
    (optional (sign ';') k cs).isSome ↔
      ∃ closed rest, cs = semicolon closed ++ rest ∧ (k rest).isSome := by
  rw [optional_isSome, Bool.or_eq_true, sign, one_isSome]
  constructor
  · rintro (⟨c, rest, rfl, hc, hread⟩ | hread)
    · exact ⟨true, rest, by simp [semicolon, beq_iff_eq.mp hc], hread⟩
    · exact ⟨false, cs, rfl, hread⟩
  · rintro ⟨closed, rest, rfl, hread⟩
    cases closed with
    | true => exact Or.inl ⟨';', rest, rfl, by decide, hread⟩
    | false => exact Or.inr hread

/-- The end of a program: blanks, a semicolon or none, and blanks. -/
theorem ending_isSome {cs : List Char} :
    ((blanks <| optional (sign ';') <| blanks <| atEnd fun _ => some ()) cs).isSome ↔
      ∃ (gap : Blanks) (closed : Bool) (after : Blanks),
        cs = gap.list ++ (semicolon closed ++ after.list) := by
  simp only [blanks, many_isSome, optional_semicolon_isSome, atEnd_isSome]
  constructor
  · rintro ⟨gap, rest, rfl, hgap, closed, rest, rfl, after, rest, rfl, hafter, rfl, -⟩
    exact ⟨⟨gap, hgap⟩, closed, ⟨after, hafter⟩, by simp⟩
  · rintro ⟨gap, closed, after, rfl⟩
    exact ⟨gap.list, _, rfl, gap.all, closed, _, rfl, after.list, [], by simp, after.all, rfl, rfl⟩

theorem isAll_null_iff {body : String} :
    isAll (fun k => blanks <| word "null" <| blanks <| optional (sign ';') <| blanks k) body =
      true ↔ IsNull body := by
  rw [isAll, blanks, many_isSome]
  constructor
  · rintro ⟨before, rest, hsplit, hbefore, hread⟩
    obtain ⟨null, rest, rfl, hnull, hread⟩ := letters_isSome.mp hread
    obtain ⟨gap, closed, after, rfl⟩ := ending_isSome.mp hread
    exact ⟨⟨⟨before, hbefore⟩, null, hnull, gap, closed, after⟩, hsplit⟩
  · rintro ⟨n, hsplit⟩
    refine ⟨n.before.list, _, hsplit, n.before.all, ?_⟩
    refine letters_isSome.mpr ⟨n.word, _, rfl, n.spells, ?_⟩
    exact ending_isSome.mpr ⟨n.gap, n.closed, n.after, rfl⟩

theorem isAll_key_iff {body : String} :
    isAll (fun k => blanks <| word "do_key" <| blanks <| sign '(' <| many1 (· != ')') fun _ =>
      sign ')' <| blanks <| optional (sign ';') <| blanks k) body = true ↔ IsKeyOnly body := by
  rw [isAll, blanks, many_isSome]
  constructor
  · rintro ⟨before, rest, hsplit, hbefore, hread⟩
    obtain ⟨key, rest, rfl, hkey, hread⟩ := letters_isSome.mp hread
    obtain ⟨gap, rest, rfl, hgap, hread⟩ := many_isSome.mp hread
    obtain ⟨opening, rest, rfl, hopening, hread⟩ := one_isSome.mp hread
    obtain ⟨arguments, rest, rfl, hne, harguments, hread⟩ := many1_isSome.mp hread
    obtain ⟨closing, rest, rfl, hclosing, hread⟩ := one_isSome.mp hread
    obtain ⟨gap', closed, after, rfl⟩ := ending_isSome.mp hread
    rw [beq_iff_eq] at hopening hclosing
    subst hopening hclosing
    refine ⟨⟨⟨before, hbefore⟩, key, hkey, ⟨gap, hgap⟩⟩,
      ⟨⟨⟨arguments, harguments⟩, hne⟩, gap', closed, after⟩, ?_⟩
    rw [hsplit]
    simp [KeyOpening.text, KeyEnding.text]
  · rintro ⟨k, e, hsplit⟩
    refine ⟨k.before.list, k.word ++ (k.gap.list ++ '(' :: e.text), ?_, k.before.all,
      letters_isSome.mpr ⟨k.word, _, rfl, k.spells, ?_⟩⟩
    · simp [hsplit, KeyOpening.text]
    refine many_isSome.mpr ⟨k.gap.list, _, rfl, k.gap.all, ?_⟩
    refine one_isSome.mpr ⟨'(', _, rfl, by decide, ?_⟩
    refine many1_isSome.mpr ⟨e.arguments.list, _, rfl, e.arguments.ne_nil, e.arguments.all, ?_⟩
    refine one_isSome.mpr ⟨')', _, rfl, by decide, ?_⟩
    exact ending_isSome.mpr ⟨e.gap, e.closed, e.after, rfl⟩

/-- The programs without rules. -/
theorem isSimple_iff {body : String} : isSimple body = true ↔ IsNull body ∨ IsKeyOnly body := by
  rw [isSimple, Bool.or_eq_true, isAll_null_iff, isAll_key_iff]

/-! ## Without the blanks at the ends -/

/-- A spelling of a word begins with no blank. -/
theorem isBlank_head_spells {key word : List Char} (hne : key ≠ [])
    (hkey : key.all Text.isKeyChar = true) (h : Spells key word) (rest : List Char) :
    ∀ c ∈ (word ++ rest).head?, Text.isBlank c = false := by
  have hread : (letters key some (word ++ rest)).isSome = true := by
    rw [letters_append h]
    rfl
  exact (readsWord_letters hne hkey some _ hread).head_ne_blank

theorem toList_trim_split (body : String) : ∃ before after : Blanks,
    body.toList = before.list ++ ((Text.trim body).toList ++ after.list) := by
  obtain ⟨before, after, hsplit, hbefore, hafter⟩ :=
    Text.exists_stripWhere Text.isBlank body.toList
  exact ⟨⟨before, hbefore⟩, ⟨after, hafter⟩, by rw [Text.trim, String.toList_ofList]; exact hsplit⟩

theorem toList_trim_of_between {body : String} {cs : List Char} (before after : Blanks)
    (hbody : body.toList = before.list ++ (cs ++ after.list))
    (hfirst : ∀ c ∈ cs.head?, Text.isBlank c = false)
    (hlast : ∀ c ∈ cs.getLast?, Text.isBlank c = false) : (Text.trim body).toList = cs := by
  rw [Text.trim, String.toList_ofList, hbody,
    Text.stripWhere_between before.all after.all hfirst hlast]

theorem isAll_bare_null {s : String} :
    isAll (fun k => word "null" <| blanks <| optional (sign ';') k) s = true ↔
      ∃ (null : List Char) (gap : Blanks) (closed : Bool), Spells "null".toList null ∧
        s.toList = null ++ (gap.list ++ semicolon closed) := by
  rw [isAll, word, letters_isSome]
  simp only [blanks, many_isSome, optional_semicolon_isSome, atEnd_isSome]
  constructor
  · rintro ⟨null, _, hsplit, hnull, gap, _, rfl, hgap, closed, _, rfl, rfl, -⟩
    exact ⟨null, ⟨gap, hgap⟩, closed, hnull, by simpa using hsplit⟩
  · rintro ⟨null, gap, closed, hnull, hsplit⟩
    exact ⟨null, _, hsplit, hnull, gap.list, _, rfl, gap.all, closed, [], by simp, rfl, rfl⟩

/-- Without the blanks at its ends a program that does nothing is one that ends with the word or
with the semicolon. -/
theorem isAll_null_trim {body : String} :
    isAll (fun k => word "null" <| blanks <| optional (sign ';') k) (Text.trim body) = true ↔
      IsNull body := by
  rw [isAll_bare_null]
  constructor
  · rintro ⟨null, gap, closed, hnull, hsplit⟩
    obtain ⟨before, after, hbody⟩ := toList_trim_split body
    refine ⟨⟨before, null, hnull, gap, closed, after⟩, ?_⟩
    rw [hbody, hsplit, NullProgram.text]
    simp only [List.append_assoc]
  · rintro ⟨n, hbody⟩
    have hfirst := isBlank_head_spells (by decide) (by decide) n.spells
    rw [NullProgram.text] at hbody
    cases hclosed : n.closed with
    | true =>
      refine ⟨n.word, n.gap, true, n.spells, ?_⟩
      refine toList_trim_of_between n.before n.after ?_ (hfirst _) ?_
      · rw [hbody, hclosed]
        simp only [List.append_assoc]
      · simp [semicolon]
        decide
    | false =>
      -- The blanks behind the word are blanks at the end of the program.
      have hblank : ∀ c ∈ n.gap.list ++ n.after.list, Text.isBlank c = true :=
        List.forall_mem_append.mpr ⟨n.gap.all, n.after.all⟩
      refine ⟨n.word, ⟨[], by simp⟩, false, n.spells, ?_⟩
      refine toList_trim_of_between n.before ⟨_, hblank⟩ ?_ (hfirst _) fun c hc => ?_
      · rw [hbody, hclosed]
        simp [semicolon]
      · rw [semicolon, if_neg Bool.false_ne_true, List.append_nil, List.append_nil] at hc
        exact Text.isBlank_of_isWordChar
          (n.spells.isWordChar (by decide) c (List.mem_of_getLast? hc))

/-- Blanks at the ends of a program hide no opening. -/
theorem beginsLike_key_trim {body : String} :
    beginsLike (fun k => word "do_key" <| blanks <| sign '(' k) (Text.trim body) = true ↔
      OpensKey body := by
  rw [beginsLike, word, letters_isSome]
  simp only [blanks, many_isSome, sign, one_isSome, beq_iff_eq]
  constructor
  · rintro ⟨key, _, hsplit, hkey, gap, _, rfl, hgap, _, rest, rfl, rfl, -⟩
    obtain ⟨before, after, hbody⟩ := toList_trim_split body
    refine ⟨⟨before, key, hkey, ⟨gap, hgap⟩⟩, rest ++ after.list, ?_⟩
    rw [hbody, hsplit, KeyOpening.text]
    simp
  · rintro ⟨k, rest, hbody⟩
    have hafter : ∀ c ∈ rest.rtakeWhile Text.isBlank, Text.isBlank c = true :=
      fun c => List.mem_rtakeWhile_imp
    have hrest : rest.rdropWhile Text.isBlank ++ rest.rtakeWhile Text.isBlank = rest :=
      List.rdropWhile_append_rtakeWhile
    have htrim : (Text.trim body).toList =
        k.word ++ (k.gap.list ++ '(' :: rest.rdropWhile Text.isBlank) := by
      refine toList_trim_of_between k.before ⟨_, hafter⟩ ?_
        (isBlank_head_spells (by decide) (by decide) k.spells _) fun c hc => ?_
      · simp [hbody, KeyOpening.text, hrest]
      · rw [← List.append_assoc, List.getLast?_append, List.getLast?_cons, Option.some_or,
          Option.mem_some_iff] at hc
        cases hlast : (rest.rdropWhile Text.isBlank).getLast? with
        | none =>
          rw [hlast, Option.getD_none] at hc
          exact hc ▸ (by decide)
        | some d =>
          rw [hlast, Option.getD_some] at hc
          exact hc ▸ Text.getLast?_rdropWhile Text.isBlank rest d hlast
    exact ⟨k.word, _, htrim, k.spells, k.gap.list, _, rfl, k.gap.all, '(', _, rfl, rfl, rfl⟩

/-- The first letter of a program that begins, behind blanks, with a word. -/
theorem exists_first_letter {key word : List Char} {w : Char}
    (hkey : Text.isKeyChar w = true) (h : Spells (w :: key) word) :
    ∃ c more, word = c :: more ∧ Text.sameLetter w c = true ∧ Text.isBlank c = false := by
  cases h with
  | cons hc _ =>
    exact ⟨_, _, rfl, hc, Text.isBlank_of_isWordChar (Text.isWordChar_of_sameLetter hkey hc)⟩

/-- No program both does nothing and begins as one that passes a key on. -/
theorem not_isNull_of_opensKey {body : String} (h : OpensKey body) : ¬ IsNull body := by
  rintro ⟨n, hnull⟩
  obtain ⟨k, rest, hkey⟩ := h
  obtain ⟨c, more, hc, hn, hcblank⟩ := exists_first_letter (by decide) n.spells
  obtain ⟨d, more', hd, hk, hdblank⟩ := exists_first_letter (by decide) k.spells
  have hfirst : c = d := by
    rw [hnull, NullProgram.text, KeyOpening.text, hc, hd] at hkey
    simp only [List.cons_append, List.append_assoc] at hkey
    exact (Text.span_unique n.before.all k.before.all hcblank hdblank hkey).2.1
  have hsmall := Text.toLower_of_sameLetter (by decide) hn
  rw [hfirst, ← Text.toLower_of_sameLetter (by decide) hk] at hsmall
  exact absurd hsmall (by decide)

end Formwork.Trigger
