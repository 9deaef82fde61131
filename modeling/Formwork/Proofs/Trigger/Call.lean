import Mathlib.Data.Bool.AllAny
import Formwork.Proofs.Form.Document
import Formwork.Proofs.Leading
import Formwork.Proofs.Text.Part
import Formwork.Proofs.Text.Word
import Formwork.Trigger.Statement

/-!
# Calls of procedures

A program may do nothing but call procedures. A call is recognised behind a blank, at the start of
the program, or behind a semicolon; but the semicolon behind a call that was recognised is taken
with that call, so a call that follows directly is passed over. Of the calls that are recognised the
first of each name is reported, unless its name is a part of what was reported before.
-/
namespace Formwork.Trigger

open Text.Match
open Form (Chars Blanks)

/-! ## Programs of calls -/

/-- The start of the name of a procedure, in any case of letters. -/
def IsPrefix (head : List Char) : Prop :=
  Spells ['p', '_'] head ∨ Spells ['s', 'f', '_'] head

/-- The name of a procedure. -/
structure ProcedureName where
  head : List Char
  isPrefix : IsPrefix head
  tail : Chars Text.isWordChar

def ProcedureName.text (n : ProcedureName) : List Char :=
  n.head ++ n.tail.list

/-- A character that neither begins nor ends arguments and ends no call. -/
def isArgumentChar (c : Char) : Bool :=
  c != '(' && c != ')' && c != ';'

/-- A call that stands alone, with the blanks before it. -/
structure Call where
  lead : Blanks
  name : ProcedureName
  args : Option (Chars isArgumentChar)

namespace Call

def arguments (c : Call) : List Char :=
  c.args.elim [] (fun a => '(' :: (a.list ++ [')']))

/-- The text of a call without the semicolon and the blanks before it. -/
def body (c : Call) : List Char :=
  c.name.text ++ c.arguments

def text (c : Call) : List Char :=
  c.lead.list ++ (c.body ++ [';'])

/-- The name of the procedure. -/
def called (c : Call) : String :=
  String.ofList c.name.text

/-- Whether the name goes on behind its start. -/
def isNamed (c : Call) : Bool :=
  !c.name.tail.list.isEmpty

/-- The statement that reports a call. -/
def statement (c : Call) : Statement where
  kind := .functionCall
  text := c.called ++ if c.args.isSome then "(...)" else ""

end Call

/-- A program of calls, with the blanks at its end. -/
structure CallList where
  calls : List Call
  tail : Blanks

/-- The calls that are recognised. `free` is whether the sign before the first is not taken. -/
def heard (free : Bool) : List Call → List Call
  | [] => []
  | c :: cs =>
    if (free || !c.lead.list.isEmpty) && c.isNamed then c :: heard false cs else heard true cs

namespace CallList

def text (p : CallList) : List Char :=
  p.calls.flatMap Call.text ++ p.tail.list

/-- The names of the procedures, as often as they are called. -/
def names (p : CallList) : List String :=
  p.calls.map Call.called

def heard (p : CallList) : List Call :=
  Trigger.heard true p.calls

end CallList

/-! ## Reading a call -/

/-- The sign or blank that a call begins after. -/
def isDelimiter (c : Char) : Bool :=
  c == ';' || Text.isBlank c

/-- Read the name of a procedure and the end of its call. -/
def procedure : Rest (List Char × List Char) := fun cs =>
  (letters ['p', '_'] <| name fun _ => fun rest =>
    callMatch.callEnd (cs.take (cs.length - rest.length)) rest) cs <|>
  (letters ['s', 'f', '_'] <| name fun _ => fun rest =>
    callMatch.callEnd (cs.take (cs.length - rest.length)) rest) cs

theorem callMatch_eq (before : Option Char) (cs : List Char) :
    callMatch before cs = ((if before.isNone then procedure cs else none) <|>
      sign ';' procedure cs <|> one Text.isBlank procedure cs) := rfl

/-- A class without the signs around arguments has characters of arguments only. -/
theorem isArgumentChar_of_class {p : Char → Bool} (hopen : p '(' = false) (hclose : p ')' = false)
    (hend : p ';' = false) {c : Char} (h : p c = true) : isArgumentChar c = true := by
  have hne (d : Char) (hd : p d = false) : c ≠ d := ne_of_apply_ne p (by simp [h, hd])
  simp [isArgumentChar, hne '(' hopen, hne ')' hclose, hne ';' hend]

theorem isArgumentChar_of_isWordChar {c : Char} (h : Text.isWordChar c = true) :
    isArgumentChar c = true :=
  isArgumentChar_of_class (by decide) (by decide) (by decide) h

theorem isArgumentChar_of_isBlank {c : Char} (h : Text.isBlank c = true) :
    isArgumentChar c = true :=
  isArgumentChar_of_class (by decide) (by decide) (by decide) h

theorem IsPrefix.isWordChar {head : List Char} (h : IsPrefix head) :
    ∀ c ∈ head, Text.isWordChar c = true := by
  unfold IsPrefix at h
  cases h with
  | inl h => exact h.isWordChar (by decide)
  | inr h => exact h.isWordChar (by decide)

theorem IsPrefix.exists_cons {head : List Char} (h : IsPrefix head) :
    ∃ c rest, head = c :: rest ∧ (Text.smallLetter c = 'p' ∨ Text.smallLetter c = 's') := by
  unfold IsPrefix at h
  rcases h with h | h
  · cases h with
    | cons hc _ => exact ⟨_, _, rfl, Or.inl (Text.toLower_of_sameLetter (by decide) hc).symm⟩
  · cases h with
    | cons hc _ => exact ⟨_, _, rfl, Or.inr (Text.toLower_of_sameLetter (by decide) hc).symm⟩

theorem ProcedureName.isWordChar (n : ProcedureName) : ∀ c ∈ n.text, Text.isWordChar c = true :=
  List.forall_mem_append.mpr ⟨n.isPrefix.isWordChar, n.tail.all⟩

theorem ProcedureName.text_ne_nil (n : ProcedureName) : n.text ≠ [] := by
  obtain ⟨c, rest, hhead, -⟩ := n.isPrefix.exists_cons
  simp [text, hhead]

/-- The end of a call is a parenthesis or a semicolon behind blanks. -/
theorem callEnd_isSome {called cs : List Char} (h : (callMatch.callEnd called cs).isSome = true) :
    ∃ gap c rest, cs = gap ++ c :: rest ∧ (∀ d ∈ gap, Text.isBlank d = true) ∧
      (c = '(' ∨ c = ';') := by
  obtain ⟨gap, rest, rfl, hgap, h⟩ := many_isSome.mp h
  rw [optional_isSome, Bool.or_eq_true] at h
  rcases h with h | h
  · obtain ⟨c, rest, rfl, hc, -⟩ := one_isSome.mp h
    exact ⟨gap, c, rest, rfl, hgap, Or.inl (beq_iff_eq.mp hc)⟩
  · obtain ⟨gap', rest, rfl, hgap', h⟩ := many_isSome.mp h
    obtain ⟨c, rest, rfl, hc, -⟩ := one_isSome.mp h
    refine ⟨gap ++ gap', c, rest, (List.append_assoc ..).symm, ?_, Or.inr (beq_iff_eq.mp hc)⟩
    exact List.forall_mem_append.mpr ⟨hgap, hgap'⟩

theorem stopsWord_callEnd (called : List Char) : StopsWord (callMatch.callEnd called) := by
  intro c rest hc
  by_contra hread
  obtain ⟨gap, d, after, hsplit, hgap, hd⟩ := callEnd_isSome (Option.isSome_iff_ne_none.mpr hread)
  have hword : Text.isWordChar c = false := by
    cases gap with
    | nil =>
      obtain ⟨rfl, -⟩ := List.cons.inj hsplit
      rcases hd with rfl | rfl <;> decide
    | cons b gap =>
      obtain ⟨rfl, -⟩ := List.cons.inj hsplit
      exact Text.isWordChar_of_isBlank (hgap c List.mem_cons_self)
  rw [hc] at hword
  cases hword

/-- The end of a call is read with its arguments. -/
theorem callEnd_arguments (c : Call) (called rest : List Char) :
    callMatch.callEnd called (c.arguments ++ ';' :: rest) = some (called, rest) := by
  have hend (k : Rest (List Char × List Char)) (hk : k (';' :: rest) = some (called, rest)) :
      blanks k (';' :: rest) = some (called, rest) :=
    blanks_of_head (by simp; decide) hk
  unfold Call.arguments callMatch.callEnd
  cases c.args with
  | none =>
    apply hend
    show (_ <|> blanks _ (';' :: rest)) = _
    rw [hend _ rfl]
    rfl
  | some a =>
    have hargs : ∀ d ∈ a.list, (d != ')') = true := by
      intro d hd
      have hchar := a.all d hd
      simp only [isArgumentChar, Bool.and_eq_true] at hchar
      exact hchar.1.2
    refine blanks_of_head (by simp; decide) ?_
    have hclosed : many (· != ')') (fun _ => sign ')' (blanks (sign ';' (found called))))
        (a.list ++ ')' :: ';' :: rest) = some (called, rest) :=
      many_append a.list hargs (by simp) (hend _ rfl)
    have hopened : (some a).elim [] (fun a : Chars isArgumentChar => '(' :: (a.list ++ [')'])) ++
        ';' :: rest = '(' :: (a.list ++ ')' :: ';' :: rest) := by
      simp
    rw [hopened]
    show (many _ _ _ <|> _) = _
    rw [hclosed]
    rfl

theorem procedure_isSome {cs : List Char} (h : (procedure cs).isSome = true) :
    ∃ head tail rest called, cs = head ++ (tail ++ rest) ∧ IsPrefix head ∧ tail ≠ [] ∧
      (∀ c ∈ tail, Text.isWordChar c = true) ∧ (callMatch.callEnd called rest).isSome = true := by
  unfold procedure at h
  rw [isSome_orElse, Bool.or_eq_true] at h
  rcases h with h | h
  · obtain ⟨head, rest, rfl, hhead, h⟩ := letters_isSome.mp h
    obtain ⟨tail, rest, rfl, hne, htail, h⟩ := many1_isSome.mp h
    exact ⟨head, tail, rest, _, rfl, Or.inl hhead, hne, htail, h⟩
  · obtain ⟨head, rest, rfl, hhead, h⟩ := letters_isSome.mp h
    obtain ⟨tail, rest, rfl, hne, htail, h⟩ := many1_isSome.mp h
    exact ⟨head, tail, rest, _, rfl, Or.inr hhead, hne, htail, h⟩

theorem readsWord_procedure : ReadsWord procedure := by
  intro cs h
  obtain ⟨head, tail, rest, -, rfl, hhead, -⟩ := procedure_isSome h
  obtain ⟨c, run, rfl, -⟩ := hhead.exists_cons
  exact startsWord_append (by simp) hhead.isWordChar _

theorem procedure_cons {c : Char} (h : Text.isWordChar c = false) (cs : List Char) :
    procedure (c :: cs) = none :=
  readsWord_procedure.cons_eq_none h cs

/-- Between the name of a procedure and the end of its call stands no closing parenthesis. -/
theorem procedure_of_closed {cs : List Char} (hcs : ∀ c ∈ cs, isArgumentChar c = true)
    (rest : List Char) : procedure (cs ++ ')' :: rest) = none := by
  by_contra hread
  obtain ⟨head, tail, after, called, hsplit, hhead, -, htail, hend⟩ :=
    procedure_isSome (Option.isSome_iff_ne_none.mpr hread)
  obtain ⟨gap, d, after, rfl, hgap, hd⟩ := callEnd_isSome hend
  have hfront : ∀ c ∈ head ++ (tail ++ gap), isArgumentChar c = true := by
    simp only [List.forall_mem_append]
    exact ⟨fun c hc => isArgumentChar_of_isWordChar (hhead.isWordChar c hc),
      fun c hc => isArgumentChar_of_isWordChar (htail c hc),
      fun c hc => isArgumentChar_of_isBlank (hgap c hc)⟩
  have hstop : isArgumentChar d = false := by rcases hd with rfl | rfl <;> decide
  have hsplit : cs ++ ')' :: rest = (head ++ (tail ++ gap)) ++ d :: after := by
    simpa only [List.append_assoc] using hsplit
  obtain ⟨-, rfl, -⟩ := Text.span_unique hcs hfront (by decide) hstop hsplit
  rcases hd with hd | hd <;> cases hd

/-- Behind its start the name of a procedure is read as any name. -/
theorem procedure_of_prefix {head : List Char} (h : IsPrefix head) (cs : List Char) :
    procedure (head ++ cs) = name (fun _ rest =>
      callMatch.callEnd ((head ++ cs).take ((head ++ cs).length - rest.length)) rest) cs := by
  obtain ⟨c, run, hcons, hc⟩ := h.exists_cons
  have hapart {w : Char} {ws : List Char} (k : Rest (List Char × List Char))
      (hw : w.toLower.toNat < 0x80) (hne : w.toLower ≠ Text.smallLetter c) :
      letters (w :: ws) k (head ++ cs) = none := by
    rw [hcons, List.cons_append, letters, one, if_neg]
    intro hsame
    exact hne (Text.toLower_of_sameLetter hw hsame)
  unfold procedure
  rcases h with hp | hs
  · have hsmall : Text.smallLetter c = 'p' := by
      rw [hcons] at hp
      cases hp with
      | cons hp _ => exact (Text.toLower_of_sameLetter (by decide) hp).symm
    rw [letters_append hp, hapart _ (by decide) (by rw [hsmall]; decide), orElse_none]
  · have hsmall : Text.smallLetter c = 's' := by
      rw [hcons] at hs
      cases hs with
      | cons hs _ => exact (Text.toLower_of_sameLetter (by decide) hs).symm
    rw [hapart _ (by decide) (by rw [hsmall]; decide), letters_append hs]
    rfl

theorem Call.head_arguments (c : Call) (rest : List Char) :
    ∀ d ∈ (c.arguments ++ ';' :: rest).head?, Text.isWordChar d = false := by
  unfold arguments
  cases c.args with
  | none => simp; decide
  | some a => simp; decide

/-- A call is read as a whole, if its name goes on behind its start. -/
theorem procedure_body (c : Call) (rest : List Char) : procedure (c.body ++ ';' :: rest) =
    if c.isNamed then some (c.name.text, rest) else none := by
  have hsplit : c.body ++ ';' :: rest =
      c.name.head ++ (c.name.tail.list ++ (c.arguments ++ ';' :: rest)) := by
    simp only [Call.body, ProcedureName.text, List.append_assoc]
  rw [hsplit, procedure_of_prefix c.name.isPrefix]
  unfold name
  by_cases htail : c.name.tail.list = []
  · rw [htail, List.nil_append, if_neg (by simp [Call.isNamed, htail])]
    by_contra hread
    obtain ⟨d, after, hcons, hd⟩ := readsWord_many1 _ _ (Option.isSome_iff_ne_none.mpr hread)
    rw [c.head_arguments rest d (by rw [hcons]; rfl)] at hd
    cases hd
  · have htake : (c.name.head ++ (c.name.tail.list ++ (c.arguments ++ ';' :: rest))).take
        ((c.name.head ++ (c.name.tail.list ++ (c.arguments ++ ';' :: rest))).length -
          (c.arguments ++ ';' :: rest).length) = c.name.text := by
      rw [← List.append_assoc, List.length_append, Nat.add_sub_cancel]
      exact List.take_left
    rw [many1_of_stops (fun run => ?_) htail c.name.tail.all (c.head_arguments rest),
      htake, callEnd_arguments, if_pos (by simp [Call.isNamed, htail])]
    exact fun d after => stopsWord_callEnd _ d after

/-! ## Where calls are recognised -/

theorem isWordChar_of_isDelimiter {c : Char} (h : isDelimiter c = true) :
    Text.isWordChar c = false := by
  rw [isDelimiter, Bool.or_eq_true, beq_iff_eq] at h
  rcases h with rfl | h
  · decide
  · exact Text.isWordChar_of_isBlank h

theorem callMatch_cons {before : Option Char} {c : Char} {cs : List Char}
    (hstart : before = none → procedure (c :: cs) = none)
    (hdelimiter : isDelimiter c = true → procedure cs = none) :
    callMatch before (c :: cs) = none := by
  have hsign : sign ';' procedure (c :: cs) = none := by
    rw [sign, one]
    split
    · next hc => exact hdelimiter (by rw [isDelimiter, hc, Bool.true_or])
    · rfl
  have hblank : one Text.isBlank procedure (c :: cs) = none := by
    rw [one]
    split
    · next hc => exact hdelimiter (by rw [isDelimiter, hc, Bool.or_true])
    · rfl
  rw [callMatch_eq, hsign, hblank]
  split
  · next hnone =>
    rw [hstart (Option.isNone_iff_eq_none.mp hnone)]
    rfl
  · rfl

theorem callMatch_delimiter (before : Option Char) {c : Char} (hc : isDelimiter c = true)
    (cs : List Char) : callMatch before (c :: cs) = procedure cs := by
  have hfirst : (if before.isNone then procedure (c :: cs) else none) = none := by
    rw [procedure_cons (isWordChar_of_isDelimiter hc), ite_self]
  rw [callMatch_eq, hfirst]
  rw [isDelimiter, Bool.or_eq_true, beq_iff_eq] at hc
  rcases hc with rfl | hc
  · have hblank : one Text.isBlank procedure (';' :: cs) = none := rfl
    rw [hblank, orElse_none]
    rfl
  · have hne : c ≠ ';' := by
      intro heq
      rw [heq] at hc
      exact absurd hc (by decide)
    have hsign : sign ';' procedure (c :: cs) = none := if_neg (by simpa using hne)
    rw [hsign, one, if_pos hc]
    rfl

/-- Of delimiters in a row only the last can begin a call. -/
theorem callMatch_delimiters {before : Option Char} {run t rest : List Char}
    (hrun : ∀ c ∈ run, isDelimiter c = true) (hrest : procedure rest = none) (hne : t ≠ [])
    (ht : t <:+ run) : callMatch before (t ++ rest) = none := by
  obtain ⟨c, t, rfl⟩ := List.exists_cons_of_ne_nil hne
  rw [List.cons_append, callMatch_delimiter before (hrun c (ht.subset List.mem_cons_self))]
  cases t with
  | nil => exact hrest
  | cons d t => exact procedure_cons (isWordChar_of_isDelimiter (hrun d (ht.subset (by simp)))) _

/-- What stands in a call and is neither of its name nor a parenthesis stands in the arguments. -/
theorem exists_arguments (c : Call) {d : Char} {t : List Char} (ht : d :: t <:+ c.body)
    (hword : Text.isWordChar d = false) (hopen : d ≠ '(') (hclose : d ≠ ')') :
    ∃ front, t = front ++ [')'] ∧ ∀ e ∈ d :: front, isArgumentChar e = true := by
  rcases cons_suffix_append ht with ht | ⟨front, hfront, -⟩
  · unfold Call.arguments at ht
    cases hargs : c.args with
    | none => simp [hargs] at ht
    | some a =>
      rw [hargs, Option.elim_some] at ht
      have ht := (List.suffix_cons_iff.mp ht).resolve_left fun heq => hopen (List.cons.inj heq).1
      rcases cons_suffix_append ht with ht | ⟨front, hfront, rfl⟩
      · exact absurd (List.mem_singleton.mp (ht.subset List.mem_cons_self)) hclose
      · exact ⟨front, rfl, fun e he => a.all e (hfront.subset he)⟩
  · have hname := c.name.isWordChar d (hfront.subset List.mem_cons_self)
    rw [hword] at hname
    cases hname

/-- No call begins in a call. -/
theorem procedure_inside (c : Call) {d : Char} {t : List Char} (ht : d :: t <:+ c.body)
    (hd : isDelimiter d = true) (rest : List Char) : procedure (t ++ ';' :: rest) = none := by
  have hne (e : Char) (he : isDelimiter e = false) : d ≠ e := by
    intro heq
    rw [← heq, hd] at he
    cases he
  obtain ⟨front, rfl, hfront⟩ := exists_arguments c ht (isWordChar_of_isDelimiter hd)
    (hne '(' (by decide)) (hne ')' (by decide))
  rw [List.append_assoc]
  exact procedure_of_closed (List.forall_mem_cons.mp hfront).2 _

/-- The sign before a text that has not been read: none at the start of a program, a semicolon that
is still to be taken, or a character that is taken. -/
inductive Pending : Bool → Option Char → List Char → Prop
  | start : Pending true none []
  | left (before : Option Char) : Pending true before [';']
  | taken (c : Char) : Pending false (some c) []

variable {free : Bool} {before : Option Char} {pend : List Char}

theorem Pending.isDelimiter (h : Pending free before pend) (b : Blanks) :
    ∀ c ∈ pend ++ b.list, Trigger.isDelimiter c = true := by
  have hblank : ∀ c ∈ b.list, Trigger.isDelimiter c = true := by
    intro c hc
    rw [Trigger.isDelimiter, b.all c hc, Bool.or_true]
  cases h <;> simpa [Trigger.isDelimiter] using hblank

/-- No match begins in a call that is not recognised, or before it. -/
theorem callMatch_unheard (hp : Pending free before pend) (c : Call)
    (h : ¬ ((free || !c.lead.list.isEmpty) && c.isNamed) = true) (rest : List Char)
    (front t : List Char) (hsplit : pend ++ c.lead.list ++ c.body = front ++ t) (hne : t ≠ []) :
    callMatch (front.getLast?.or before) (t ++ ';' :: rest) = none := by
  have hlead := hp.isDelimiter c.lead
  -- A call whose name goes on is passed over only where nothing stands before it.
  have hbody : (before = none ∨ pend ++ c.lead.list ≠ []) →
      procedure (c.body ++ ';' :: rest) = none := by
    intro hfree
    rw [procedure_body, if_neg]
    intro hnamed
    rw [hnamed, Bool.and_true, Bool.or_eq_true, not_or] at h
    cases hp <;> simp_all
  obtain ⟨d, t, rfl⟩ := List.exists_cons_of_ne_nil hne
  apply callMatch_cons
  · intro hstart
    obtain ⟨hfront, hbefore⟩ := Option.or_eq_none_iff.mp hstart
    rw [List.getLast?_eq_none_iff.mp hfront, List.nil_append] at hsplit
    cases hpend : pend ++ c.lead.list with
    | nil =>
      rw [hpend, List.nil_append] at hsplit
      have hall := hbody (Or.inl hbefore)
      rwa [hsplit] at hall
    | cons e run =>
      rw [hpend, List.cons_append] at hsplit
      obtain ⟨rfl, -⟩ := List.cons.inj hsplit
      exact procedure_cons (isWordChar_of_isDelimiter (hlead e (by simp [hpend]))) _
  · intro hd
    have hsuffix : d :: t <:+ pend ++ c.lead.list ++ c.body := ⟨front, hsplit.symm⟩
    rcases cons_suffix_append hsuffix with ht | ⟨run, hrun, rfl⟩
    · exact procedure_inside c ht hd rest
    · cases run with
      | nil => exact hbody (Or.inr (List.ne_nil_of_mem (hrun.subset List.mem_cons_self)))
      | cons e run =>
        have he := hlead e (hrun.subset (by simp))
        exact procedure_cons (isWordChar_of_isDelimiter he) _

theorem contains_body (c : Call) : c.body.contains '(' = c.args.isSome := by
  have hname : '(' ∉ c.name.text := by
    intro h
    exact absurd (c.name.isWordChar _ h) (by decide)
  unfold Call.body Call.arguments
  cases c.args <;> simp [hname]

/-- What is shown of the match of a call: the name, and whether arguments are given. -/
def shown (m : Text.Match.Found (List Char)) : List Char × Bool :=
  (m.value, m.covered.contains '(')

/-- A match of a call is taken with the semicolon behind it. -/
theorem findFrom_call (c : Call) {sep rest : List Char} (hsep : '(' ∉ sep)
    (h : callMatch before (sep ++ (c.body ++ ';' :: rest)) = some (c.name.text, rest))
    (offset : Nat) : ∃ m offset',
      findFrom callMatch offset before (sep ++ (c.body ++ ';' :: rest)) =
        m :: findFrom callMatch offset' (some ';') rest ∧
      shown m = (c.name.text, c.args.isSome) := by
  have hsplit : sep ++ (c.body ++ ';' :: rest) = (sep ++ (c.body ++ [';'])) ++ rest := by simp
  have hlast : (sep ++ (c.body ++ [';'])).getLast? = some ';' := by simp
  have hcontains : (sep ++ (c.body ++ [';'])).contains '(' = c.args.isSome := by
    rw [← contains_body]
    simp [hsep]
  rw [hsplit] at h ⊢
  rw [findFrom_take (by simp) h, hlast]
  exact ⟨_, _, rfl, Prod.ext rfl hcontains⟩

/-- A call that is recognised is taken with the sign before it. -/
theorem findFrom_heard (hp : Pending free before pend) (c : Call)
    (h : ((free || !c.lead.list.isEmpty) && c.isNamed) = true) (offset : Nat) (rest : List Char) :
    ∃ m offset', findFrom callMatch offset before (pend ++ c.lead.list ++ (c.body ++ ';' :: rest)) =
      m :: findFrom callMatch offset' (some ';') rest ∧
        shown m = (c.name.text, c.args.isSome) := by
  obtain ⟨hfree, hnamed⟩ := Bool.and_eq_true_iff.mp h
  have hread : procedure (c.body ++ ';' :: rest) = some (c.name.text, rest) := by
    rw [procedure_body, if_pos hnamed]
  have hlead := hp.isDelimiter c.lead
  rcases List.eq_nil_or_concat (pend ++ c.lead.list) with hnil | ⟨run, d, hconcat⟩
  · -- Nothing stands before the call: the program begins with it.
    have hbefore : before = none := by cases hp <;> simp_all
    rw [hnil]
    apply findFrom_call c List.not_mem_nil
    rw [hbefore, callMatch_eq]
    show (procedure (c.body ++ ';' :: rest) <|> _) = _
    rw [hread]
    rfl
  · rw [List.concat_eq_append] at hconcat
    rw [hconcat] at hlead ⊢
    have hd : isDelimiter d = true := hlead d (by simp)
    have hsep : '(' ∉ [d] := by
      intro hmem
      rw [← List.mem_singleton.mp hmem] at hd
      cases hd
    have hpass : procedure ([d] ++ (c.body ++ ';' :: rest)) = none :=
      procedure_cons (isWordChar_of_isDelimiter hd) _
    rw [List.append_assoc, findFrom_pass fun front t hsplit hne =>
      callMatch_delimiters (fun e he => hlead e (List.mem_append_left _ he)) hpass hne
        ⟨front, hsplit.symm⟩]
    apply findFrom_call c hsep
    rw [List.singleton_append, callMatch_delimiter _ hd, hread]

/-- **What is recognised.** In the calls of a program those are found that are heard. -/
theorem map_shown_findFrom (hp : Pending free before pend) (offset : Nat) (cs : List Call)
    (tail : Blanks) :
    (findFrom callMatch offset before (pend ++ (cs.flatMap Call.text ++ tail.list))).map shown =
      (heard free cs).map (fun c => (c.name.text, c.args.isSome)) := by
  induction cs generalizing free before pend offset with
  | nil =>
    have hend : procedure [] = none := rfl
    rw [List.flatMap_nil, List.nil_append, ← List.append_nil (pend ++ tail.list),
      findFrom_pass fun front t hsplit hne =>
        callMatch_delimiters (hp.isDelimiter tail) hend hne ⟨front, hsplit.symm⟩, findFrom]
    rfl
  | cons c cs ih =>
    have hsplit : pend ++ ((c :: cs).flatMap Call.text ++ tail.list) =
        pend ++ c.lead.list ++ (c.body ++ ';' :: (cs.flatMap Call.text ++ tail.list)) := by
      simp only [List.flatMap_cons, Call.text, List.append_assoc, List.cons_append, List.nil_append]
    rw [hsplit, heard]
    split
    · next h =>
      obtain ⟨m, offset', hfind, hshown⟩ := findFrom_heard hp c h offset
        (cs.flatMap Call.text ++ tail.list)
      rw [hfind, List.map_cons, List.map_cons, hshown]
      exact congrArg _ (ih (.taken ';') offset')
    · next h =>
      have hpass := findFrom_pass (callMatch_unheard hp c h (cs.flatMap Call.text ++ tail.list))
        offset
      rw [← List.append_assoc, hpass]
      exact ih (.left _) _

/-! ## What else is read -/

/-- What is read behind blanks as a word begins with the first letter of the word. -/
theorem smallLetter_of_blanks_word {w c : Char} {ws gap rest : List Char} {k : Rest Unit}
    (hw : Text.isKeyChar w = true) (hsmall : w.toLower.toNat < 0x80)
    (hgap : ∀ d ∈ gap, Text.isBlank d = true) (hc : Text.isBlank c = false)
    (h : (blanks (letters (w :: ws) k) (gap ++ c :: rest)).isSome = true) :
    w.toLower = Text.smallLetter c := by
  obtain ⟨gap', tail, hsplit, hgap', h⟩ := many_isSome.mp h
  obtain ⟨d, tail, rfl, hd, -⟩ := one_isSome.mp h
  have hfirst : Text.isBlank d = false :=
    Text.isBlank_of_isWordChar (Text.isWordChar_of_sameLetter hw hd)
  obtain ⟨-, rfl, -⟩ := Text.span_unique hgap hgap' hc hfirst hsplit
  exact Text.toLower_of_sameLetter hsmall hd

/-- A program that begins otherwise than the words `null` and `do_key` is not a simple one. -/
theorem isSimple_of_first {gap rest : List Char} {c : Char}
    (hgap : ∀ d ∈ gap, Text.isBlank d = true) (hc : Text.isBlank c = false)
    (hn : Text.smallLetter c ≠ 'n') (hd : Text.smallLetter c ≠ 'd') :
    isSimple (String.ofList (gap ++ c :: rest)) = false := by
  by_contra hsimple
  rw [Bool.not_eq_false, isSimple, Bool.or_eq_true, isAll, isAll, String.toList_ofList] at hsimple
  rcases hsimple with h | h
  · exact hn (smallLetter_of_blanks_word (by decide) (by decide) hgap hc h).symm
  · exact hd (smallLetter_of_blanks_word (by decide) (by decide) hgap hc h).symm

theorem dottedName_isSome {α : Type} {k : List Char → Rest α} {cs : List Char}
    (h : (dottedName k cs).isSome = true) : ∃ first second rest,
      cs = first ++ '.' :: (second ++ rest) ∧ (∀ c ∈ first, Text.isWordChar c = true) ∧
        (∀ c ∈ second, Text.isWordChar c = true) ∧
        (k (first ++ '.' :: second) rest).isSome = true := by
  unfold dottedName name at h
  obtain ⟨first, rest, rfl, -, hfirst, h⟩ := many1_isSome.mp h
  obtain ⟨point, rest, rfl, hpoint, h⟩ := one_isSome.mp h
  obtain ⟨second, rest, rfl, -, hsecond, hread⟩ := many1_isSome.mp h
  obtain rfl := beq_iff_eq.mp hpoint
  exact ⟨first, second, rest, rfl, hfirst, hsecond, hread⟩

/-- An assignment of the result of a function stands between a colon and a parenthesis. -/
theorem assignmentMatch_isSome {cs : List Char} (h : (assignmentMatch cs).isSome = true) :
    ∃ run rest, cs = ':' :: (run ++ '(' :: rest) ∧ ∀ c ∈ run, isArgumentChar c = true := by
  obtain ⟨colon, rest, rfl, hcolon, h⟩ := one_isSome.mp h
  obtain ⟨first, second, rest, rfl, hfirst, hsecond, h⟩ := dottedName_isSome h
  obtain ⟨gap, rest, rfl, hgap, h⟩ := many_isSome.mp h
  obtain ⟨sign, rest, rfl, hsign, h⟩ := one_isSome.mp h
  obtain ⟨equals, rest, rfl, hequals, h⟩ := one_isSome.mp h
  obtain ⟨gap', rest, rfl, hgap', h⟩ := many_isSome.mp h
  obtain ⟨function, rest, rfl, -, hfunction, h⟩ := many1_isSome.mp h
  obtain ⟨gap'', rest, rfl, hgap'', h⟩ := many_isSome.mp h
  obtain ⟨paren, rest, rfl, hparen, -⟩ := one_isSome.mp h
  rw [beq_iff_eq] at hcolon hsign hequals hparen
  subst hcolon hsign hequals hparen
  refine ⟨first ++ '.' :: (second ++ (gap ++ ':' :: '=' :: (gap' ++ (function ++ gap'')))), rest,
    by simp, ?_⟩
  have hword (run : List Char) (h : ∀ c ∈ run, Text.isWordChar c = true) :
      ∀ c ∈ run, isArgumentChar c = true := fun c hc => isArgumentChar_of_isWordChar (h c hc)
  have hblank (run : List Char) (h : ∀ c ∈ run, Text.isBlank c = true) :
      ∀ c ∈ run, isArgumentChar c = true := fun c hc => isArgumentChar_of_isBlank (h c hc)
  rw [List.forall_mem_append, List.forall_mem_cons, List.forall_mem_append, List.forall_mem_append,
    List.forall_mem_cons, List.forall_mem_cons, List.forall_mem_append, List.forall_mem_append]
  exact ⟨hword _ hfirst, by decide, hword _ hsecond, hblank _ hgap, by decide, by decide,
    hblank _ hgap', hword _ hfunction, hblank _ hgap''⟩

/-- Where another sign than an opening parenthesis ends what stands behind every colon, nothing is
assigned. -/
theorem assignments_eq_nil {body : List Char} (h : ∀ t, ':' :: t <:+ body → ∃ run c rest,
    t = run ++ c :: rest ∧ (∀ d ∈ run, isArgumentChar d = true) ∧ isArgumentChar c = false ∧
      c ≠ '(') : assignments body = [] := by
  have hnone : findAll (fun _ => assignmentMatch) body = [] := by
    rw [findAll, ← List.append_nil body, findFrom_skip ?_, findFrom_nil]
    intro t hne ht
    by_contra hread
    rw [List.append_nil] at hread
    obtain ⟨run, rest, rfl, hrun⟩ :=
      assignmentMatch_isSome (Option.isSome_iff_ne_none.mpr hread)
    obtain ⟨run', c, rest', hsplit, hrun', hc, hne⟩ := h _ ht
    exact hne (Text.span_unique hrun hrun' (by decide) hc hsplit).2.1.symm
  rw [assignments, hnone]
  rfl

/-! ## What is reported -/

/-- The statement that reports a call of a name. -/
def reported (p : List Char × Bool) : Statement where
  kind := .functionCall
  text := String.ofList p.1 ++ if p.2 then "(...)" else ""

/-- Whether the text of a statement has a name as a part. -/
def Statement.mentions (s : Statement) (name : List Char) : Bool :=
  Text.hasPart s.text (String.ofList name)

theorem withCalls_eq (body : List Char) (done : List Statement) :
    withCalls body done = ((findAll callMatch body).map shown).foldl (fun done p =>
      if done.any (fun s => s.mentions p.1) then done else done ++ [reported p]) done := by
  rw [List.foldl_map]
  rfl

/-- What reports a call mentions the names that are parts of the name called. -/
theorem mentions_reported (p : List Char × Bool) {called : List Char} (hne : called ≠ [])
    (h : ∀ c ∈ called, Text.isWordChar c = true) :
    (reported p).mentions called = Text.occursIn called p.1 := by
  have htail : ∀ c ∈ (if p.2 then "(...)" else "").toList, Text.isWordChar c = false := by
    cases p.2 <;> exact List.all_iff_forall_prop.mp (by decide)
  rw [Bool.eq_iff_iff, Statement.mentions, Text.hasPart_iff, Text.occursIn_iff, reported,
    String.toList_append, String.toList_ofList, String.toList_ofList,
    Text.infix_append_iff hne h htail]

theorem mentions_of_occursIn {s : Statement} {name part : List Char} (hs : s.mentions name = true)
    (h : Text.occursIn part name = true) : s.mentions part = true := by
  rw [Statement.mentions, Text.hasPart_iff, String.toList_ofList] at hs ⊢
  exact (Text.occursIn_iff.mp h).trans hs

/-- Of the names that are called the leading ones are reported that nothing before mentions. -/
theorem withCalls_of_shown {body : List Char} {l : List (List Char × Bool)}
    (h : (findAll callMatch body).map shown = l)
    (hname : ∀ p ∈ l, p.1 ≠ [] ∧ ∀ c ∈ p.1, Text.isWordChar c = true) (done : List Statement) :
    withCalls body done = done ++ ((leading (fun p q => Text.occursIn q.1 p.1) l).filter
      (fun p => !done.any (fun s => s.mentions p.1))).map reported := by
  have hcovers : ∀ p, ∀ q ∈ l, (reported p).mentions q.1 = Text.occursIn q.1 p.1 :=
    fun p q hq => mentions_reported p (hname q hq).1 (hname q hq).2
  have htrans : ∀ (s : Statement) (p q : List Char × Bool), s.mentions p.1 = true →
      Text.occursIn q.1 p.1 = true → s.mentions q.1 = true :=
    fun s p q hs hp => mentions_of_occursIn hs hp
  rw [withCalls_eq, h]
  exact foldl_unless hcovers htrans done

/-! ## Programs of calls -/

/-- The calls that a program reports when its function calls are collected. -/
def functionCalls (body : List Char) : List Statement :=
  (statements (String.ofList body)).filter (fun s => s.kind = .functionCall)

namespace CallList

/-- The selections and cursors that the arguments of calls are taken for. -/
def selected (p : CallList) : List Statement :=
  cursors p.text ++ selections p.text

/-- The calls that are reported: of those that are recognised the leading ones, unless what the
arguments are taken for mentions them. -/
def reported (p : CallList) : List Call :=
  (leading (fun c d => Text.occursIn d.name.text c.name.text) p.heard).filter (fun c =>
    !p.selected.any (fun s => s.mentions c.name.text))

end CallList

theorem findAll_callMatch_text (p : CallList) : (findAll callMatch p.text).map shown =
    p.heard.map (fun c => (c.name.text, c.args.isSome)) :=
  map_shown_findFrom .start 0 p.calls p.tail

/-- What stands behind a colon in a program of calls ends with the parenthesis of the arguments. -/
theorem exists_closed {cs : List Call} {tail : Blanks} {t : List Char}
    (ht : ':' :: t <:+ cs.flatMap Call.text ++ tail.list) :
    ∃ run rest, t = run ++ ')' :: rest ∧ ∀ d ∈ run, isArgumentChar d = true := by
  have hcolon (b : Blanks) {u : List Char} (h : ':' :: u <:+ b.list) : False :=
    absurd (b.all ':' (h.subset List.mem_cons_self)) (by decide)
  induction cs with
  | nil => exact (hcolon tail ht).elim
  | cons c cs ih =>
    rw [List.flatMap_cons, List.append_assoc] at ht
    rcases cons_suffix_append ht with ht | ⟨u, hu, rfl⟩
    · exact ih ht
    · rcases cons_suffix_append hu with hu | ⟨v, hv, rfl⟩
      · rcases cons_suffix_append hu with hu | ⟨v, hv, rfl⟩
        · exact absurd (List.mem_singleton.mp (hu.subset List.mem_cons_self)) (by decide)
        · obtain ⟨run, rfl, hrun⟩ := exists_arguments c hv (by decide) (by decide) (by decide)
          refine ⟨run, [';'] ++ (cs.flatMap Call.text ++ tail.list), ?_,
            (List.forall_mem_cons.mp hrun).2⟩
          simp only [List.append_assoc, List.cons_append, List.nil_append]
      · exact (hcolon c.lead hv).elim

theorem assignments_text (p : CallList) : assignments p.text = [] := by
  apply assignments_eq_nil
  intro t ht
  obtain ⟨run, rest, hsplit, hrun⟩ := exists_closed ht
  exact ⟨run, ')', rest, hsplit, hrun, by decide, by decide⟩

theorem isSimple_text {p : CallList} (h : p.calls ≠ []) :
    isSimple (String.ofList p.text) = false := by
  obtain ⟨c, cs, hcalls⟩ := List.exists_cons_of_ne_nil h
  obtain ⟨d, run, hhead, hd⟩ := c.name.isPrefix.exists_cons
  have hsplit : ∃ rest, p.text = c.lead.list ++ d :: rest := by
    refine ⟨run ++ (c.name.tail.list ++ (c.arguments ++ ';' :: (cs.flatMap Call.text ++
      p.tail.list))), ?_⟩
    simp [CallList.text, hcalls, Call.text, Call.body, ProcedureName.text, hhead]
  obtain ⟨rest, hsplit⟩ := hsplit
  have hblank : Text.isBlank d = false :=
    Text.isBlank_of_isWordChar (c.name.isPrefix.isWordChar d (by simp [hhead]))
  rw [hsplit]
  apply isSimple_of_first c.lead.all hblank
  · rcases hd with hd | hd <;> rw [hd] <;> decide
  · rcases hd with hd | hd <;> rw [hd] <;> decide

/-- Cursors and selections are not function calls. -/
theorem filter_selected (body : List Char) :
    (cursors body ++ selections body).filter (fun s => s.kind = .functionCall) = [] := by
  refine List.filter_eq_nil_iff.mpr fun s hs => ?_
  rw [List.mem_append, cursors, selections, List.mem_map, List.mem_map] at hs
  rcases hs with ⟨m, -, rfl⟩ | ⟨m, -, rfl⟩ <;> simp

theorem heard_sublist (free : Bool) (cs : List Call) : (heard free cs).Sublist cs := by
  induction cs generalizing free with
  | nil => exact List.Sublist.slnil
  | cons c cs ih =>
    rw [heard]
    split
    · exact (ih false).cons_cons c
    · exact (ih true).cons c

theorem withCalls_text (p : CallList) :
    withCalls p.text p.selected = p.selected ++ p.reported.map Call.statement := by
  have hname : ∀ q ∈ p.heard.map (fun c => (c.name.text, c.args.isSome)),
      q.1 ≠ [] ∧ ∀ c ∈ q.1, Text.isWordChar c = true := by
    intro q hq
    obtain ⟨c, -, rfl⟩ := List.mem_map.mp hq
    exact ⟨c.name.text_ne_nil, c.name.isWordChar⟩
  rw [withCalls_of_shown (findAll_callMatch_text p) hname, leading_map, List.filter_map,
    List.map_map]
  rfl

/-- The function calls of a program of calls are the calls that are reported. -/
theorem functionCalls_eq (p : CallList) :
    functionCalls p.text = p.reported.map Call.statement := by
  have hcall : ∀ s ∈ p.reported.map Call.statement, decide (s.kind = .functionCall) = true := by
    intro s hs
    obtain ⟨c, -, rfl⟩ := List.mem_map.mp hs
    rfl
  rw [functionCalls, statements]
  split
  · next hsimple =>
    have hcalls : p.calls = [] := by
      by_contra h
      rw [isSimple_text h] at hsimple
      cases hsimple
    rw [CallList.reported, CallList.heard, hcalls]
    rfl
  · rw [String.toList_ofList]
    dsimp only
    rw [assignments_text, List.append_nil]
    show ((withCalls p.text p.selected).filter _) = _
    rw [withCalls_text, List.filter_append, CallList.selected, filter_selected, List.nil_append,
      List.filter_eq_self.mpr hcall]

theorem heard_false_eq_self_iff {cs : List Call} :
    heard false cs = cs ↔ ∀ c ∈ cs, c.isNamed = true ∧ c.lead.list ≠ [] := by
  induction cs with
  | nil => simp [heard]
  | cons c cs ih =>
    rw [heard, List.forall_mem_cons, ← ih]
    split
    · next h =>
      simp only [Bool.false_or, Bool.and_eq_true, Bool.not_eq_true', List.isEmpty_eq_false_iff] at h
      exact ⟨fun hcs => ⟨h.symm, (List.cons.inj hcs).2⟩, fun hcs => congrArg _ hcs.2⟩
    · next h =>
      constructor
      · intro heq
        have hlength := (heard_sublist true cs).length_le
        rw [heq, List.length_cons] at hlength
        omega
      · intro hcs
        simp [hcs.1] at h

/-- All calls are recognised exactly where every name goes on behind its start and blanks stand
between the calls. -/
theorem CallList.heard_eq_calls_iff {p : CallList} : p.heard = p.calls ↔
    (∀ c ∈ p.calls, c.isNamed = true) ∧ ∀ c ∈ p.calls.tail, c.lead.list ≠ [] := by
  unfold CallList.heard
  cases p.calls with
  | nil => simp [Trigger.heard]
  | cons c cs =>
    rw [Trigger.heard, Bool.true_or, Bool.true_and, List.forall_mem_cons, List.tail_cons]
    split
    · next h =>
      rw [List.cons_inj_right, heard_false_eq_self_iff]
      exact ⟨fun hcs => ⟨⟨h, fun d hd => (hcs d hd).1⟩, fun d hd => (hcs d hd).2⟩,
        fun hcs d hd => ⟨hcs.1.2 d hd, hcs.2 d hd⟩⟩
    · next h =>
      constructor
      · intro heq
        have hlength := (heard_sublist true cs).length_le
        rw [heq, List.length_cons] at hlength
        omega
      · exact fun hcs => absurd hcs.1.1 h

/-- The name that a statement begins with. -/
def Statement.firstName (s : Statement) : String :=
  String.ofList (s.text.toList.takeWhile Text.isWordChar)

theorem Call.firstName_statement (c : Call) : c.statement.firstName = c.called := by
  have hstop (given : Bool) :
      (if given then "(...)" else "").toList.takeWhile Text.isWordChar = [] := by
    cases given <;> decide
  rw [Statement.firstName, Call.statement, Call.called, String.toList_append,
    String.toList_ofList, List.takeWhile_append_of_pos c.name.isWordChar, hstop, List.append_nil]

/-- The names reported are the leading ones of the names recognised, if nothing else mentions
them. -/
theorem CallList.map_called_reported (p : CallList) : p.reported.map Call.called =
    (leading Text.hasPart (p.heard.map Call.called)).filter (fun n =>
      !p.selected.any (fun s => Text.hasPart s.text n)) := by
  have hcovers : (fun c d : Call => Text.occursIn d.name.text c.name.text) =
      fun c d => Text.hasPart c.called d.called := by
    funext c d
    rw [Text.hasPart, Call.called, Call.called, String.toList_ofList, String.toList_ofList]
  rw [leading_map, List.filter_map, CallList.reported, hcovers]
  rfl

/-- **The calls of a program.** The function calls of a program of calls are the calls reported.
They are one for each name, in the order of the first calls, exactly where the calls recognised
show every name in that order, no name is a part of a name that is called before it, and nothing
that arguments are taken for mentions a name. All calls are recognised exactly where blanks stand
between them and no name ends behind its start. -/
theorem functionCalls_text (p : CallList) :
    functionCalls p.text = p.reported.map Call.statement ∧
      ((functionCalls p.text).map Statement.firstName = distinct p.names ↔
        distinct (p.heard.map Call.called) = distinct p.names ∧
          (distinct p.names).Pairwise (fun m n => Text.hasPart m n = false) ∧
          ∀ n ∈ p.names, ∀ s ∈ p.selected, Text.hasPart s.text n = false) ∧
      (p.heard = p.calls ↔ (∀ c ∈ p.calls, c.isNamed = true) ∧
        ∀ c ∈ p.calls.tail, c.lead.list ≠ []) := by
  refine ⟨functionCalls_eq p, ?_, CallList.heard_eq_calls_iff⟩
  have hfirst : (functionCalls p.text).map Statement.firstName = p.reported.map Call.called := by
    rw [functionCalls_eq, List.map_map]
    exact List.map_congr_left fun c _ => c.firstName_statement
  have hsub : p.heard.map Call.called ⊆ p.names :=
    ((heard_sublist true p.calls).map Call.called).subset
  have hpass (n : String) : (!p.selected.any (fun s => Text.hasPart s.text n)) = true ↔
      ∀ s ∈ p.selected, Text.hasPart s.text n = false := by
    rw [Bool.not_eq_true', List.any_eq_false]
    simp only [Bool.not_eq_true]
  have htrans (k m n : String) (hkm : Text.hasPart k m = true) (hmn : Text.hasPart m n = true) :
      Text.hasPart k n = true := Text.hasPart_trans hkm hmn
  rw [hfirst, CallList.map_called_reported,
    filter_leading_eq_distinct_iff htrans Text.hasPart_self hsub]
  simp only [hpass]

/-- Calls that stand apart, of names none of which is a part of another. -/
theorem functionCalls_text_apart :
    let none : Blanks := ⟨[], by simp⟩
    let line : Blanks := ⟨['\n'], List.forall_mem_singleton.mpr rfl⟩
    let named : (c : Char) → Text.isWordChar c = true → ProcedureName := fun c hc =>
      ⟨['p', '_'], Or.inl (spells_self _), ⟨[c], List.forall_mem_singleton.mpr hc⟩⟩
    let item : Chars isArgumentChar := ⟨[':', 'x', '.', 'y'], List.all_eq_true.mp (by decide)⟩
    let p : CallList :=
      { calls :=
          [⟨none, named 'a' (by decide), some item⟩, ⟨line, named 'b' (by decide), .none⟩,
            ⟨line, named 'a' (by decide), .none⟩]
        tail := none }
    String.ofList p.text = "p_a(:x.y);\np_b;\np_a;" ∧
      (functionCalls p.text).map Statement.firstName = ["p_a", "p_b"] := by
  intro none line named item p
  have hnames : distinct p.names = ["p_a", "p_b"] := by decide +kernel
  refine ⟨by decide +kernel, ?_⟩
  rw [← hnames]
  apply (functionCalls_text p).2.1.mpr
  have hheard : p.heard = p.calls :=
    (functionCalls_text p).2.2.mpr ⟨by decide, by decide⟩
  have hselected : p.selected = [] := by decide +kernel
  rw [hheard, hnames, hselected]
  exact ⟨by decide +kernel, by decide +kernel, by simp⟩

/-- A call that follows directly on another is lost, and so is one whose name is a part of an
earlier name. -/
theorem functionCalls_lost :
    let none : Blanks := ⟨[], by simp⟩
    let blank : Blanks := ⟨[' '], List.forall_mem_singleton.mpr rfl⟩
    let called : Blanks → (cs : List Char) → cs.all Text.isWordChar = true → Call :=
      fun lead cs hcs =>
        ⟨lead, ⟨['p', '_'], Or.inl (spells_self _), ⟨cs, List.all_eq_true.mp hcs⟩⟩, .none⟩
    let adjacent : CallList :=
      ⟨[called none ['a'] (by decide), called none ['b'] (by decide)], none⟩
    let contained : CallList :=
      ⟨[called none ['a', 'b'] (by decide), called blank ['a'] (by decide)], none⟩
    String.ofList adjacent.text = "p_a;p_b;" ∧
      (functionCalls adjacent.text).map Statement.firstName = ["p_a"] ∧
      distinct adjacent.names = ["p_a", "p_b"] ∧
      String.ofList contained.text = "p_ab; p_a;" ∧
      (functionCalls contained.text).map Statement.firstName = ["p_ab"] ∧
      distinct contained.names = ["p_ab", "p_a"] := by
  decide +kernel

end Formwork.Trigger
