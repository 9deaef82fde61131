import Mathlib.Data.List.Basic
import Formwork.Text.Blank

/-!
# Reading SQL

SQL is read character by character. A comment runs from two hyphens to the end of its line. A string
literal ends at a quote that is not doubled, and a doubled quote in it stands for one. A semicolon
ends a statement. Comments and blanks only separate what stands around them.
-/
namespace Formwork.Sql

/-- What is read from SQL. -/
inductive Token where
  | literal (content : String)
  /-- A run of characters of no other kind: a word, a name or a number. -/
  | word (text : String)
  /-- A character that stands for itself. -/
  | mark (c : Char)
  deriving DecidableEq, Repr

/-- Characters that stand for themselves. -/
def isMark (c : Char) : Bool :=
  c == '(' || c == ')' || c == ',' || c == ';'

/-- What the next character belongs to, with what was read of it so far. -/
inductive Mode where
  /-- No literal and no comment: a word that may go on. -/
  | plain (word : List Char)
  /-- Behind a hyphen that follows a word. -/
  | hyphen (word : List Char)
  | comment
  | literal (content : List Char)
  /-- Behind a quote in a literal. -/
  | quote (content : List Char)
  deriving DecidableEq, Repr

def ended (word : List Char) : List Token :=
  if word.isEmpty then [] else [.word (String.ofList word)]

/-- Read a character that belongs to no literal and to no comment. -/
def stepPlain (word : List Char) (c : Char) : Mode × List Token :=
  if c == '\x27' then (.literal [], ended word)
  else if c == '-' then (.hyphen word, [])
  else if Text.isBlank c then (.plain [], ended word)
  else if isMark c then (.plain [], ended word ++ [.mark c])
  else (.plain (word ++ [c]), [])

def step (m : Mode) (c : Char) : Mode × List Token :=
  match m with
  | .plain word => stepPlain word c
  | .hyphen word => if c == '-' then (.comment, ended word) else stepPlain (word ++ ['-']) c
  | .comment => (if c == '\n' then .plain [] else .comment, [])
  | .literal content => (if c == '\x27' then .quote content else .literal (content ++ [c]), [])
  | .quote content =>
    if c == '\x27' then (.literal (content ++ [c]), [])
    else
      let (m, ts) := stepPlain [] c
      (m, .literal (String.ofList content) :: ts)

def scan (m : Mode) : List Char → Mode × List Token
  | [] => (m, [])
  | c :: cs =>
    let next := step m c
    let rest := scan next.1 cs
    (rest.1, next.2 ++ rest.2)

/-- What is left to read at the end of a text; a literal must have ended. -/
def finish : Mode → Option (List Token)
  | .plain word => some (ended word)
  | .hyphen word => some (ended (word ++ ['-']))
  | .comment => some []
  | .literal _ => none
  | .quote content => some [.literal (String.ofList content)]

def tokens? (sql : String) : Option (List Token) :=
  let (m, ts) := scan (.plain []) sql.toList
  (finish m).map (ts ++ ·)

/-- Tokens cut at semicolons, if nothing stands behind the last one. -/
def cut? : List Token → Option (List (List Token))
  | [] => some []
  | t :: ts =>
    if t = .mark ';' then (cut? ts).map ([] :: ·)
    else match cut? ts with
      | some (s :: more) => some ((t :: s) :: more)
      | _ => none

def statements? (sql : String) : Option (List (List Token)) :=
  (tokens? sql).bind cut?

/-- Tokens between brackets, with commas between them. -/
def listed (ts : List Token) : List Token :=
  .mark '(' :: (ts.intersperse (.mark ',') ++ [.mark ')'])

/-- The statement that inserts values into columns of a table. -/
def insertion (table : String) (columns : List String) (values : List Token) : List Token :=
  [.word "INSERT", .word "INTO", .word table] ++ listed (columns.map .word) ++
    .word "VALUES" :: listed values

/-! ## Reading a text part by part -/

theorem scan_cons {m m' : Mode} {c : Char} {ts : List Token} (h : step m c = (m', ts))
    (cs : List Char) : scan m (c :: cs) = ((scan m' cs).1, ts ++ (scan m' cs).2) := by
  rw [scan, h]

theorem scan_append (m : Mode) (cs rest : List Char) :
    scan m (cs ++ rest) =
      ((scan (scan m cs).1 rest).1, (scan m cs).2 ++ (scan (scan m cs).1 rest).2) := by
  induction cs generalizing m with
  | nil => rfl
  | cons c cs ih => simp only [List.cons_append, scan, ih, List.append_assoc]

theorem scan_append_of_eq {m m' : Mode} {cs : List Char} {ts : List Token}
    (h : scan m cs = (m', ts)) (rest : List Char) :
    scan m (cs ++ rest) = ((scan m' rest).1, ts ++ (scan m' rest).2) := by
  rw [scan_append, h]

/-- A part is read as the given tokens and nothing of it is left to read. -/
def Reads (cs : List Char) (ts : List Token) : Prop :=
  scan (.plain []) cs = (.plain [], ts)

instance (cs : List Char) (ts : List Token) : Decidable (Reads cs ts) :=
  inferInstanceAs (Decidable (_ = _))

theorem reads_nil : Reads [] [] := rfl

theorem Reads.append {cs cs' : List Char} {ts ts' : List Token} (h : Reads cs ts)
    (h' : Reads cs' ts') : Reads (cs ++ cs') (ts ++ ts') := by
  rw [Reads, scan_append_of_eq h, h']

theorem Reads.flatMap {α : Type} {f : α → List Char} {g : α → List Token} {l : List α}
    (h : ∀ a ∈ l, Reads (f a) (g a)) : Reads (l.flatMap f) (l.flatMap g) := by
  induction l with
  | nil => exact reads_nil
  | cons a l ih =>
    obtain ⟨ha, hl⟩ := List.forall_mem_cons.mp h
    exact ha.append (ih hl)

theorem Reads.statements? {sql : String} {ts : List Token} (h : Reads sql.toList ts) :
    Sql.statements? sql = cut? ts := by
  have htokens : tokens? sql = some (ts ++ []) := by
    rw [tokens?, h]
    rfl
  rw [Sql.statements?, htokens, List.append_nil, Option.bind_some]

theorem scan_comment {cs : List Char} (h : '\n' ∉ cs) : scan .comment cs = (.comment, []) := by
  induction cs with
  | nil => rfl
  | cons c cs ih =>
    rw [List.mem_cons, not_or] at h
    have hc : step .comment c = (.comment, []) := by simp [step, Ne.symm h.1]
    rw [scan_cons hc, ih h.2, List.append_nil]

/-- A comment is nothing. -/
theorem reads_comment {cs : List Char} (hstart : ['-', '-'] <+: cs) (h : '\n' ∉ cs) :
    Reads (cs ++ ['\n']) [] := by
  obtain ⟨text, rfl⟩ := hstart
  have hnone : scan (.plain []) ['-', '-'] = (.comment, []) := by decide
  have htext : '\n' ∉ text := fun hmem => h (List.mem_append_right _ hmem)
  rw [Reads, List.append_assoc, scan_append_of_eq hnone, scan_append_of_eq (scan_comment htext)]
  rfl

/-- Whether a character goes on with a word. -/
def isPlain (c : Char) : Bool :=
  c != '\x27' && c != '-' && !Text.isBlank c && !isMark c

theorem step_of_isPlain {c : Char} (h : isPlain c = true) (word : List Char) :
    step (.plain word) c = (.plain (word ++ [c]), []) := by
  simp only [isPlain, Bool.and_eq_true, bne_iff_ne, Bool.not_eq_true'] at h
  obtain ⟨⟨⟨hquote, hhyphen⟩, hblank⟩, hmark⟩ := h
  simp [step, stepPlain, hquote, hhyphen, hblank, hmark]

theorem scan_word {cs : List Char} (h : ∀ c ∈ cs, isPlain c = true) (word : List Char) :
    scan (.plain word) cs = (.plain (word ++ cs), []) := by
  induction cs generalizing word with
  | nil => simp [scan]
  | cons c cs ih =>
    obtain ⟨hc, hcs⟩ := List.forall_mem_cons.mp h
    rw [scan_cons (step_of_isPlain hc word), ih hcs, List.append_assoc, List.append_nil]
    rfl

/-- A text that is read as one token wherever a comma or a bracket follows. -/
def ReadsOne (cs : List Char) (t : Token) : Prop :=
  ∀ c, c = ',' ∨ c = ')' → Reads (cs ++ [c]) [t, .mark c]

theorem readsOne_word {cs : List Char} (hne : cs ≠ []) (h : ∀ c ∈ cs, isPlain c = true) :
    ReadsOne cs (.word (String.ofList cs)) := by
  intro c hc
  have hended : ended cs = [.word (String.ofList cs)] := by
    rw [ended, if_neg]
    simpa using hne
  rw [Reads, scan_append_of_eq (scan_word h []), List.nil_append]
  rcases hc with rfl | rfl <;> simp [scan, step, stepPlain, Text.isBlank, isMark, hended]

/-- A list of values is read value by value. -/
theorem reads_intercalate {values : List (List Char)} {ts : List Token}
    (h : List.Forall₂ ReadsOne values ts) (hne : values ≠ []) :
    Reads ([',', ' '].intercalate values ++ [')']) (ts.intersperse (.mark ',') ++ [.mark ')']) := by
  induction h with
  | nil => exact absurd rfl hne
  | @cons v t values ts hv hvalues ih =>
    cases hvalues with
    | nil =>
      rw [List.intercalate_singleton]
      exact hv ')' (Or.inr rfl)
    | cons hw hmore =>
      have hblank : Reads [' '] [] := rfl
      have hrest := ((hv ',' (Or.inl rfl)).append hblank).append (ih (by simp))
      simpa [List.intercalate_cons_cons] using hrest

theorem reads_listed {values : List (List Char)} {ts : List Token}
    (h : List.Forall₂ ReadsOne values ts) (hne : values ≠ []) :
    Reads ('(' :: ([',', ' '].intercalate values ++ [')'])) (listed ts) := by
  have hopen : Reads ['('] [.mark '('] := rfl
  exact hopen.append (reads_intercalate h hne)

/-! ## Cutting tokens into statements -/

theorem cut?_append {s ts : List Token} {more : List (List Token)} (hs : .mark ';' ∉ s)
    (h : cut? ts = some more) : cut? (s ++ .mark ';' :: ts) = some (s :: more) := by
  induction s with
  | nil => rw [List.nil_append, cut?, if_pos rfl, h, Option.map_some]
  | cons t s ih =>
    rw [List.mem_cons, not_or] at hs
    rw [List.cons_append, cut?, if_neg (Ne.symm hs.1), ih hs.2]

theorem cut?_flatMap {α : Type} {f : α → List Token} {l : List α} {ts : List Token}
    {more : List (List Token)} (hf : ∀ a ∈ l, .mark ';' ∉ f a) (h : cut? ts = some more) :
    cut? (l.flatMap (fun a => f a ++ [.mark ';']) ++ ts) = some (l.map f ++ more) := by
  induction l with
  | nil => exact h
  | cons a l ih =>
    obtain ⟨ha, hl⟩ := List.forall_mem_cons.mp hf
    rw [List.flatMap_cons, List.append_assoc, List.append_assoc, List.singleton_append,
      cut?_append ha (ih hl), List.map_cons, List.cons_append]

theorem notMem_listed {ts : List Token} (h : .mark ';' ∉ ts) : .mark ';' ∉ listed ts := by
  have hcommas : .mark ';' ∉ ts.intersperse (.mark ',') := by
    induction ts with
    | nil => exact h
    | cons t ts ih =>
      rw [List.mem_cons, not_or] at h
      cases ts with
      | nil => simpa using h.1
      | cons u ts => simpa using ⟨h.1, ih h.2⟩
  simpa [listed] using hcommas

end Formwork.Sql
