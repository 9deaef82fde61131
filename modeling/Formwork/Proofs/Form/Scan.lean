import Mathlib.Data.List.Basic
import Formwork.Proofs.Classes
import Formwork.Proofs.Form.Document
import Formwork.Proofs.Limit
import Formwork.Proofs.Text.Word

/-!
# Scanning printed documents

A document is scanned for the opening tags of one name, and what comes back of each is what was
printed. No tag begins elsewhere, since an angle bracket stands nowhere but at the start of a tag,
and no tag of another name is taken, since a blank must follow the name and no name has one.
-/
namespace Formwork.Form

open Text.Match

/-! ## Characters -/

theorem ne_of_isBlank {c d : Char} (hc : Text.isBlank c = true) (hd : Text.isBlank d = false) :
    c ≠ d :=
  ne_of_apply_ne Text.isBlank (by simp [hc, hd])

/-- Names of attributes have only characters that names of tags may have. -/
theorem isTagChar_of_isAttributeChar {c : Char} (h : isAttributeChar c = true) :
    isTagChar c = true := by
  have hnot : ∀ d, isAttributeChar d = false → c ≠ d := by
    rintro d hd rfl
    rw [h] at hd
    cases hd
  have hblank : Text.isBlank c = false := by
    by_contra hblank
    rw [Bool.not_eq_false] at hblank
    have hdot : c ≠ '.' := ne_of_isBlank hblank (by decide)
    have hhyphen : c ≠ '-' := ne_of_isBlank hblank (by decide)
    simp [isAttributeChar, Text.isWordChar_of_isBlank hblank, hdot, hhyphen] at h
  simp [isTagChar, hblank, hnot ':' (by decide), hnot '/' (by decide), hnot '<' (by decide),
    hnot '>' (by decide)]

theorem isAttributeChar_of_isPrefixChar {c : Char} (h : isPrefixChar c = true) :
    isAttributeChar c = true := by
  rw [isPrefixChar, Bool.or_eq_true] at h
  rcases h with h | h
  · simp [isAttributeChar, h]
  · simp [isAttributeChar, h]

theorem isTagChar_iff {c : Char} : isTagChar c = true ↔
    Text.isBlank c = false ∧ c ≠ ':' ∧ c ≠ '/' ∧ c ≠ '<' ∧ c ≠ '>' := by
  simp [isTagChar, and_assoc]

theorem isAttributeChar_of_isBlank {c : Char} (h : Text.isBlank c = true) :
    isAttributeChar c = false := by
  by_contra hattribute
  have htag := isTagChar_of_isAttributeChar (Bool.not_eq_false _ ▸ hattribute)
  rw [(isTagChar_iff.mp htag).1] at h
  cases h

/-! ## Attributes -/

theorem takeWhile_append {p : Char → Bool} {cs : List Char} {c : Char}
    (hcs : ∀ d ∈ cs, p d = true) (hc : p c = false) (rest : List Char) :
    (cs ++ c :: rest).takeWhile p = cs := by
  rw [List.takeWhile_append_of_pos hcs, List.takeWhile_cons_of_neg (by simp [hc]), List.append_nil]

theorem dropWhile_append {p : Char → Bool} {cs : List Char} {c : Char}
    (hcs : ∀ d ∈ cs, p d = true) (hc : p c = false) (rest : List Char) :
    (cs ++ c :: rest).dropWhile p = c :: rest := by
  rw [List.dropWhile_append_of_pos hcs, List.dropWhile_cons_of_neg (by simp [hc])]

theorem spanOf?_run {p : Char → Bool} (r : Run p) {c : Char} (hc : p c = false)
    (rest : List Char) : spanOf? p (r.list ++ c :: rest) = some (r.list, c :: rest) := by
  have hne : r.list.isEmpty = false := by simpa using r.ne_nil
  rw [spanOf?, takeWhile_append r.all hc, dropWhile_append r.all hc, hne]
  rfl

theorem spanOf?_cons {p : Char → Bool} {c : Char} (hc : p c = false) (cs : List Char) :
    spanOf? p (c :: cs) = none := by
  rw [spanOf?, List.takeWhile_cons_of_neg (by simp [hc])]
  rfl

theorem attributeName?_text (n : Name isAttributeChar isAttributeChar) (rest : List Char) :
    attributeName? (n.text ++ '=' :: rest) = some (n.text, '=' :: rest) := by
  have hequals : isAttributeChar '=' = false := by decide
  have hcolon : isAttributeChar ':' = false := by decide
  obtain ⟨scope, base⟩ := n
  cases scope with
  | none =>
    rw [Name.text, Option.elim_none, List.nil_append, attributeName?, spanOf?_run base hequals]
    rfl
  | some scope =>
    rw [Name.text, Option.elim_some, List.append_assoc, List.append_assoc, List.singleton_append,
      attributeName?, spanOf?_run scope hcolon]
    have hbase := spanOf?_run base hequals rest
    simp only [hbase, List.append_assoc, List.singleton_append]

theorem attributeValue?_text {value : List Char} (h : '\x22' ∉ value) (rest : List Char) :
    attributeValue? ('=' :: '\x22' :: (value ++ '\x22' :: rest)) = some (value, rest) := by
  have hvalue : ∀ c ∈ value, (c != '\x22') = true := by
    intro c hc
    exact bne_iff_ne.mpr fun hquote => h (hquote ▸ hc)
  have hquote : ('\x22' != '\x22') = false := by decide
  have hequals : ¬ Text.isBlank '=' = true := by decide
  have hopen : ¬ Text.isBlank '\x22' = true := by decide
  simp only [attributeValue?, List.dropWhile_cons_of_neg hequals, List.dropWhile_cons_of_neg hopen,
    dropWhile_append hvalue hquote, takeWhile_append hvalue hquote]

/-- An attribute is read where it stands, with its value as it is written. -/
theorem attribute?_text (n : Name isAttributeChar isAttributeChar) {value : List Char}
    (h : '\x22' ∉ value) (rest : List Char) :
    attribute? (n.text ++ '=' :: '\x22' :: (value ++ '\x22' :: rest)) =
      some ((n.text, value), rest) := by
  rw [attribute?, attributeName?_text]
  dsimp only
  rw [attributeValue?_text h]
  rfl

theorem attribute?_bare (a : Attribute) (rest : List Char) :
    attribute? (a.bare ++ rest) =
      some ((a.name.text, Text.escapedText a.value.toList), rest) := by
  rw [Attribute.bare, List.append_assoc, List.cons_append, List.cons_append, List.append_assoc,
    List.singleton_append]
  exact attribute?_text a.name (fun hquote => (Text.ne_of_mem_escapedText hquote).2.2 rfl) rest

theorem attribute?_cons {c : Char} (h : Text.isBlank c = true) (cs : List Char) :
    attribute? (c :: cs) = none := by
  rw [attribute?, attributeName?, spanOf?_cons (isAttributeChar_of_isBlank h)]

/-- No attribute is read from blanks. -/
theorem readings_blanks {cs : List Char} (h : ∀ c ∈ cs, Text.isBlank c = true)
    (rest : List Char) : readings attribute? (cs ++ rest) = readings attribute? rest := by
  refine readings_skip fun t hne ht => ?_
  obtain ⟨c, t, rfl⟩ := List.exists_cons_of_ne_nil hne
  exact attribute?_cons (h c (ht.subset List.mem_cons_self)) _

theorem readings_bare (a : Attribute) (rest : List Char) :
    readings attribute? (a.bare ++ rest) =
      (a.name.text, Text.escapedText a.value.toList) :: readings attribute? rest :=
  readings_hit (by simp [Attribute.bare]) (attribute?_bare a rest)

theorem readings_attributes (as : List Attribute) (tail : Blanks) :
    readings attribute? (as.flatMap Attribute.text ++ tail.list) =
      as.map (fun a => (a.name.text, Text.escapedText a.value.toList)) := by
  induction as with
  | nil =>
    rw [List.flatMap_nil, List.nil_append, ← List.append_nil tail.list, readings_blanks tail.all,
      readings_nil]
    rfl
  | cons a as ih =>
    rw [List.flatMap_cons, Attribute.text, List.append_assoc, List.append_assoc,
      readings_blanks a.gap.all, readings_bare, ih, List.map_cons]

/-- The attributes that are written are those that are read one by one, the first of each name. -/
theorem writtenAttributes_eq (cs : List Char) : writtenAttributes cs =
    firsts (·.1) ((readings attribute? cs).map
      (fun a => (String.ofList a.1, String.ofList a.2))) := by
  rw [readings, List.map_map]
  rfl

theorem readAttributes_of_readings {cs : List Char} {as : List Attribute}
    (h : readings attribute? cs =
      as.map (fun a => (a.name.text, Text.escapedText a.value.toList))) :
    readAttributes cs = .ok (firsts (·.1) (as.map Attribute.pair)) := by
  have hwritten : writtenAttributes cs = firsts (·.1) (as.map (fun a =>
      (String.ofList a.name.text, String.ofList (Text.escapedText a.value.toList)))) := by
    rw [writtenAttributes_eq, h, List.map_map]
    rfl
  rw [readAttributes, hwritten, firsts_map, firsts_map, mapM_eq_ok, List.map_map, List.map_map]
  refine List.map_congr_left fun a _ => ?_
  show (Text.unescape (String.ofList (Text.escapedText a.value.toList))).map _ = .ok a.pair
  rw [Text.unescape_escapedText]
  rfl

/-- Of the body of a tag its attributes are read with their values, the first of each name. -/
theorem readAttributes_body (t : OpenTag) :
    readAttributes (t.body false) =
      .ok (firsts (·.1) ((t.first :: t.more).map Attribute.pair)) := by
  refine readAttributes_of_readings ?_
  rw [OpenTag.body, if_neg Bool.false_ne_true, List.append_nil, readings_bare,
    readings_attributes, List.map_cons]

/-! ## Tags -/

/-- The characters of a name are those of its parts, or the colon between them. -/
theorem Name.mem_text {p q : Char → Bool} (hp : ∀ c, p c = true → isTagChar c = true)
    (hq : ∀ c, q c = true → isTagChar c = true) {n : Name p q} {c : Char} (h : c ∈ n.text) :
    Text.isBlank c = false ∧ c ≠ '<' ∧ c ≠ '>' := by
  have hchar : isTagChar c = true ∨ c = ':' := by
    rw [text, List.mem_append] at h
    rcases h with h | h
    · cases hscope : n.scope with
      | none => simp [hscope] at h
      | some s =>
        rw [hscope, Option.elim_some, List.mem_append, List.mem_singleton] at h
        exact h.imp_left fun h => hp c (s.all c h)
    · exact Or.inl (hq c (n.base.all c h))
  rcases hchar with h | rfl
  · obtain ⟨hblank, -, -, hlt, hgt⟩ := isTagChar_iff.mp h
    exact ⟨hblank, hlt, hgt⟩
  · decide

theorem Name.mem_attribute_text {n : Name isAttributeChar isAttributeChar} {c : Char}
    (h : c ∈ n.text) : Text.isBlank c = false ∧ c ≠ '<' ∧ c ≠ '>' :=
  mem_text (fun _ => isTagChar_of_isAttributeChar) (fun _ => isTagChar_of_isAttributeChar) h

theorem Name.mem_tag_text {n : Name isPrefixChar isTagChar} {c : Char} (h : c ∈ n.text) :
    Text.isBlank c = false ∧ c ≠ '<' ∧ c ≠ '>' :=
  mem_text (fun _ hc => isTagChar_of_isAttributeChar (isAttributeChar_of_isPrefixChar hc))
    (fun _ => id) h

theorem Attribute.ne_of_mem_bare {a : Attribute} {c : Char} (h : c ∈ a.bare) :
    c ≠ '<' ∧ c ≠ '>' := by
  simp only [bare, List.mem_append, List.mem_cons, List.not_mem_nil, or_false] at h
  rcases h with h | rfl | rfl | h | rfl
  · exact (Name.mem_attribute_text h).2
  · decide
  · decide
  · obtain ⟨hlt, hgt, -⟩ := Text.ne_of_mem_escapedText h
    exact ⟨hlt, hgt⟩
  · decide

/-- Behind blanks the body of a tag is read as it is written. -/
theorem tagBody?_text (gap : Run Text.isBlank) {c : Char} {cs : List Char}
    (hc : Text.isBlank c = false) (h : '>' ∉ c :: cs) (rest : List Char) :
    tagBody? (gap.list ++ (c :: cs ++ '>' :: rest)) = some (c :: cs, rest) := by
  obtain ⟨b, bs, hgap⟩ := List.exists_cons_of_ne_nil gap.ne_nil
  have hb : Text.isBlank b = true := gap.all b (hgap ▸ List.mem_cons_self)
  have hgt : ('>' != '>') = false := by decide
  have hnot : ∀ d ∈ c :: cs, (d != '>') = true := by
    intro d hd
    exact bne_iff_ne.mpr fun hend => h (hend ▸ hd)
  have hdrop : (gap.list ++ (c :: cs ++ '>' :: rest)).dropWhile Text.isBlank =
      c :: cs ++ '>' :: rest :=
    dropWhile_append gap.all hc _
  rw [hgap, List.cons_append] at hdrop ⊢
  simp only [tagBody?, if_pos hb, hdrop, dropWhile_append hnot hgt, takeWhile_append hnot hgt]

namespace OpenTag

theorem ne_of_mem_body {t : OpenTag} {closed : Bool} {c : Char} (h : c ∈ t.body closed) :
    c ≠ '<' ∧ c ≠ '>' := by
  have hblank : ∀ c, Text.isBlank c = true → c ≠ '<' ∧ c ≠ '>' := fun c hc =>
    ⟨ne_of_isBlank hc (by decide), ne_of_isBlank hc (by decide)⟩
  simp only [body, List.mem_append, List.mem_flatMap, Attribute.text] at h
  rcases h with (h | ⟨a, -, h | h⟩ | h) | h
  · exact Attribute.ne_of_mem_bare h
  · exact hblank c (a.gap.all c h)
  · exact Attribute.ne_of_mem_bare h
  · exact hblank c (t.tail.all c h)
  · cases closed with
    | false => cases h
    | true =>
      obtain rfl := List.mem_singleton.mp h
      decide

/-- A body begins with no blank. -/
theorem exists_first (t : OpenTag) (closed : Bool) :
    ∃ c cs, t.body closed = c :: cs ∧ Text.isBlank c = false := by
  obtain ⟨c, cs, hname⟩ : ∃ c cs, t.first.name.text = c :: cs :=
    List.exists_cons_of_ne_nil (by simp [Name.text, t.first.name.base.ne_nil])
  have hmem : c ∈ t.first.name.text := hname ▸ List.mem_cons_self
  have hbody : ∃ rest, t.body closed = c :: rest := by
    rw [body, Attribute.bare, hname]
    exact ⟨_, rfl⟩
  obtain ⟨rest, hrest⟩ := hbody
  exact ⟨c, rest, hrest, (Name.mem_attribute_text hmem).1⟩

theorem exists_quote (a : Attribute) (more : List Attribute) :
    ∃ init, a.bare ++ more.flatMap Attribute.text = init ++ ['\x22'] := by
  induction more generalizing a with
  | nil =>
    refine ⟨a.name.text ++ '=' :: '\x22' :: Text.escapedText a.value.toList, ?_⟩
    simp [Attribute.bare]
  | cons b more ih =>
    obtain ⟨init, hinit⟩ := ih b
    refine ⟨a.bare ++ b.gap.list ++ init, ?_⟩
    rw [List.flatMap_cons, Attribute.text, List.append_assoc b.gap.list, hinit]
    simp only [List.append_assoc]

/-- What stands before the stroke that may close a tag at once does not end with a stroke. -/
theorem exists_last (t : OpenTag) : ∃ init c, t.body false = init ++ [c] ∧ c ≠ '/' := by
  obtain ⟨init, hinit⟩ := exists_quote t.first t.more
  have hbody : t.body false = init ++ ['\x22'] ++ t.tail.list := by
    rw [body, if_neg Bool.false_ne_true, List.append_nil, ← List.append_assoc, hinit]
  rcases List.eq_nil_or_concat t.tail.list with hnil | ⟨blanks, c, htail⟩
  · exact ⟨init, '\x22', by rw [hbody, hnil, List.append_nil], by decide⟩
  · have hc : Text.isBlank c = true := t.tail.all c (by simp [htail])
    exact ⟨init ++ ['\x22'] ++ blanks, c, by simp [hbody, htail], ne_of_isBlank hc (by decide)⟩

theorem body_true (t : OpenTag) : t.body true = t.body false ++ ['/'] := by
  simp [body]

theorem closesItself_body (t : OpenTag) (closed : Bool) :
    closesItself (t.body closed) = closed := by
  cases closed with
  | true => simp [closesItself, body_true]
  | false =>
    obtain ⟨init, c, hbody, hc⟩ := t.exists_last
    simp [closesItself, hbody, hc]

/-- Of the body of a tag, less the stroke that closes it, its attributes are read. -/
theorem readAttributes_attributeText (t : OpenTag) (closed : Bool) :
    readAttributes (attributeText (t.body closed)) =
      .ok (firsts (·.1) ((t.first :: t.more).map Attribute.pair)) := by
  rw [attributeText, closesItself_body, ← readAttributes_body]
  cases closed with
  | true => rw [if_pos rfl, body_true, List.dropLast_concat]
  | false => rfl

/-- What is read as the body of a tag is the body. -/
theorem tagBody?_body (t : OpenTag) (closed : Bool) (rest : List Char) :
    tagBody? (t.first.gap.list ++ (t.body closed ++ '>' :: rest)) = some (t.body closed, rest) := by
  obtain ⟨c, cs, hbody, hc⟩ := t.exists_first closed
  have hend : '>' ∉ t.body closed := fun h => (ne_of_mem_body h).2 rfl
  rw [hbody] at hend ⊢
  exact tagBody?_text t.first.gap hc hend rest

end OpenTag

/-! ## Scanning -/

/-- Whether the name of a tag ends before a character. -/
def endsName (c : Char) : Bool :=
  Text.isBlank c || c == '>'

theorem endsName_eq_false {c : Char} : endsName c = false ↔ Text.isBlank c = false ∧ c ≠ '>' := by
  simp [endsName]

theorem endsName_of_isBlank {c : Char} (h : Text.isBlank c = true) : endsName c = true := by
  simp [endsName, h]

/-- A character that ends names is neither one of a scope nor the colon behind it. -/
theorem isPrefixChar_of_endsName {c : Char} (h : endsName c = true) :
    isPrefixChar c = false ∧ c ≠ ':' := by
  rw [endsName, Bool.or_eq_true, beq_iff_eq] at h
  rcases h with h | rfl
  · refine ⟨?_, ne_of_isBlank h (by decide)⟩
    by_contra hprefix
    have hattribute := isAttributeChar_of_isPrefixChar (Bool.not_eq_false _ ▸ hprefix)
    rw [isAttributeChar_of_isBlank h] at hattribute
    cases hattribute
  · decide

theorem tagBody?_cons {c : Char} (h : endsName c = false) (cs : List Char) :
    tagBody? (c :: cs) = none := by
  simp [tagBody?, (endsName_eq_false.mp h).1]

theorem afterWord?_eq_some {w cs rest : List Char} :
    afterWord? w cs = some rest ↔ cs = w ++ rest := by
  rw [afterWord?]
  constructor
  · intro h
    split at h
    · next hstart =>
      obtain ⟨after, rfl⟩ := List.isPrefixOf_iff_prefix.mp hstart
      rw [List.drop_left] at h
      rw [Option.some.inj h]
    · cases h
  · rintro rfl
    rw [if_pos (List.isPrefixOf_iff_prefix.mpr (List.prefix_append _ _)), List.drop_left]

section Names

variable {α : Type} {k : List Char → Option α}

/-- A word ends where the name ends, if what follows it is read only there. -/
theorem bind_afterWord? (hk : ∀ c cs, endsName c = false → k (c :: cs) = none)
    {w front : List Char} {b : Char} (hw : ∀ c ∈ w, endsName c = false)
    (hfront : ∀ c ∈ front, endsName c = false) (hb : endsName b = true) (rest : List Char) :
    (afterWord? w (front ++ b :: rest)).bind k = if front = w then k (b :: rest) else none := by
  split
  · next h =>
    rw [afterWord?_eq_some.mpr (congrArg (· ++ b :: rest) h), Option.bind_some]
  · next hne =>
    cases hafter : afterWord? w (front ++ b :: rest) with
    | none => rfl
    | some after =>
      rw [Option.bind_some]
      -- The word would reach over the end of the name, or end before it.
      rcases List.append_eq_append_iff.mp (afterWord?_eq_some.mp hafter) with
        ⟨more, rfl, hmore⟩ | ⟨more, rfl, rfl⟩
      · cases more with
        | nil => exact absurd (List.append_nil front).symm hne
        | cons c more =>
          obtain ⟨rfl, -⟩ := List.cons.inj hmore
          rw [hw b (by simp)] at hb
          cases hb
      · cases more with
        | nil => exact absurd (List.append_nil w) hne
        | cons c more => exact hk c _ (hfront c (by simp))

/-- Without a colon before the end of its name a tag has no scope. -/
theorem afterTagName?_of_notMem {w front rest : List Char} {b : Char}
    (hfront : ':' ∉ front) (hb : endsName b = true) :
    afterTagName? w (front ++ b :: rest) k = (afterWord? w (front ++ b :: rest)).bind k := by
  obtain ⟨hstop, hcolon⟩ := isPrefixChar_of_endsName hb
  rw [afterTagName?]
  split
  · next run after hspan =>
    -- The colon behind a scope would end the name, or stand before its end.
    have hdrop : (front ++ b :: rest).dropWhile isPrefixChar = ':' :: after := by
      rw [spanOf?] at hspan
      split at hspan
      · cases hspan
      · exact (Prod.mk.inj (Option.some.inj hspan)).2
    rw [List.dropWhile_append] at hdrop
    split at hdrop
    · rw [List.dropWhile_cons_of_neg (by simp [hstop])] at hdrop
      exact absurd (List.cons.inj hdrop).1 hcolon
    · next hne =>
      cases hmore : front.dropWhile isPrefixChar with
      | nil => simp [hmore] at hne
      | cons c more =>
        rw [hmore] at hdrop
        obtain ⟨rfl, -⟩ := List.cons.inj hdrop
        exact absurd ((List.dropWhile_suffix isPrefixChar).subset (hmore ▸ List.mem_cons_self))
          hfront
  · rfl

/-- A tag is taken if it has the name, whatever its scope. -/
theorem afterTagName?_text (hk : ∀ c cs, endsName c = false → k (c :: cs) = none)
    (name : Run isTagChar) (n : Name isPrefixChar isTagChar) {b : Char} (hb : endsName b = true)
    (rest : List Char) :
    afterTagName? name.list (n.text ++ b :: rest) k =
      if n.base.list = name.list then k (b :: rest) else none := by
  have hword : ∀ r : Run isTagChar, ∀ c ∈ r.list, endsName c = false ∧ c ≠ ':' := by
    intro r c hc
    obtain ⟨hblank, hcolon, -, -, hgt⟩ := isTagChar_iff.mp (r.all c hc)
    exact ⟨endsName_eq_false.mpr ⟨hblank, hgt⟩, hcolon⟩
  have hname : ∀ c ∈ name.list, endsName c = false := fun c hc => (hword name c hc).1
  have hbase : ∀ c ∈ n.base.list, endsName c = false := fun c hc => (hword n.base c hc).1
  have htext : ∀ c ∈ n.text, endsName c = false := by
    intro c hc
    obtain ⟨hblank, -, hgt⟩ := Name.mem_tag_text hc
    exact endsName_eq_false.mpr ⟨hblank, hgt⟩
  cases hscope : n.scope with
  | none =>
    have hplain : n.text = n.base.list := by
      rw [Name.text, hscope, Option.elim_none, List.nil_append]
    have hcolon : ':' ∉ n.base.list := fun h => (hword n.base ':' h).2 rfl
    rw [hplain, afterTagName?_of_notMem hcolon hb, bind_afterWord? hk hname hbase hb]
  | some scope =>
    have hsplit : n.text = scope.list ++ ':' :: n.base.list := by
      rw [Name.text, hscope, Option.elim_some, List.append_assoc, List.singleton_append]
    have hne : n.text ≠ name.list := by
      intro h
      have hmem : ':' ∈ name.list := by simp [← h, hsplit]
      exact (hword name ':' hmem).2 rfl
    have hcolon : isPrefixChar ':' = false := by decide
    have hspan := spanOf?_run scope hcolon (n.base.list ++ b :: rest)
    rw [← List.cons_append, ← List.append_assoc, ← hsplit, List.cons_append] at hspan
    have hplain := bind_afterWord? hk hname htext hb rest
    rw [if_neg hne] at hplain
    simp only [afterTagName?, hspan, hplain, bind_afterWord? hk hname hbase hb rest,
      Option.orElse_eq_orElse, Option.orElse_eq_or, Option.or_none]

end Names

theorem OpenTag.text_append (t : OpenTag) (closed : Bool) (rest : List Char) :
    t.text closed ++ rest =
      '<' :: (t.name.text ++ (t.first.gap.list ++ (t.body closed ++ '>' :: rest))) := by
  simp [OpenTag.text]

/-- Behind the name of an opening tag the text is read from its first blank on. -/
theorem afterTagName?_opening {α : Type} {k : List Char → Option α}
    (hk : ∀ c cs, endsName c = false → k (c :: cs) = none) (name : Run isTagChar) (t : OpenTag)
    (rest : List Char) :
    afterTagName? name.list (t.name.text ++ (t.first.gap.list ++ rest)) k =
      if t.name.base.list = name.list then k (t.first.gap.list ++ rest) else none := by
  obtain ⟨b, bs, hgap⟩ := List.exists_cons_of_ne_nil t.first.gap.ne_nil
  have hb : Text.isBlank b = true := t.first.gap.all b (hgap ▸ List.mem_cons_self)
  rw [hgap, List.cons_append]
  exact afterTagName?_text hk name t.name (endsName_of_isBlank hb) (bs ++ rest)

/-- The opening tags of a name are read where they stand, and no others. -/
theorem openTag?_text (name : Run isTagChar) (t : OpenTag) (closed : Bool) (rest : List Char) :
    openTag? name.list (t.text closed ++ rest) =
      if t.name.base.list = name.list then some (t.body closed, rest) else none := by
  rw [t.text_append, openTag?, afterTagName?_opening (fun _ cs h => tagBody?_cons h cs),
    t.tagBody?_body]

/-- No opening tag is read from the closing tag of an element. -/
theorem openTag?_closing (name : Run isTagChar) (rest : List Char) :
    openTag? name.list ('<' :: '/' :: rest) = none := by
  have hstroke : isPrefixChar '/' = false := by decide
  have hword : afterWord? name.list ('/' :: rest) = none := by
    cases hafter : afterWord? name.list ('/' :: rest) with
    | none => rfl
    | some after =>
      obtain ⟨c, cs, hname⟩ := List.exists_cons_of_ne_nil name.ne_nil
      have hsplit := afterWord?_eq_some.mp hafter
      rw [hname, List.cons_append] at hsplit
      obtain ⟨rfl, -⟩ := List.cons.inj hsplit
      have hchar := name.all '/' (hname ▸ List.mem_cons_self)
      exact absurd rfl (isTagChar_iff.mp hchar).2.2.1
  simp only [openTag?, afterTagName?, spanOf?_cons hstroke, hword, Option.bind_none]

theorem openTag?_cons (name : List Char) {c : Char} (h : c ≠ '<') (cs : List Char) :
    openTag? name (c :: cs) = none := by
  rw [openTag?]
  rintro rest heq
  exact h (List.cons.inj heq).1

/-- Where no angle bracket stands no tag is read. -/
theorem openTag?_suffix {name cs t : List Char} (hcs : '<' ∉ cs) (hne : t ≠ []) (h : t <:+ cs)
    (rest : List Char) : openTag? name (t ++ rest) = none := by
  obtain ⟨c, t, rfl⟩ := List.exists_cons_of_ne_nil hne
  refine openTag?_cons name ?_ _
  rintro rfl
  exact hcs (h.subset List.mem_cons_self)

/-- What is read of a piece by a scan for a name. -/
def Piece.read? (name : Run isTagChar) : Piece → Option (List Char)
  | .opening tag closed =>
    if tag.name.base.list = name.list then some (tag.body closed) else none
  | .closing _ => none
  | .blanks _ => none

theorem openTag?_of_read? {name : Run isTagChar} {p : Piece} {body : List Char}
    (h : p.read? name = some body) :
    p.text ≠ [] ∧ ∀ rest, openTag? name.list (p.text ++ rest) = some (body, rest) := by
  cases p with
  | opening tag closed =>
    rw [Piece.read?] at h
    split at h
    · next hname =>
      obtain rfl := Option.some.inj h
      refine ⟨List.cons_ne_nil _ _, fun rest => ?_⟩
      rw [Piece.text, openTag?_text, if_pos hname]
    · cases h
  | closing n => cases h
  | blanks b => cases h

theorem notMem_opening (t : OpenTag) (closed : Bool) :
    '<' ∉ t.name.text ++ (t.first.gap.list ++ (t.body closed ++ ['>'])) := by
  have hgap : '<' ∉ t.first.gap.list := fun h => ne_of_isBlank (t.first.gap.all _ h) (by decide) rfl
  have hbody : '<' ∉ t.body closed := fun h => (OpenTag.ne_of_mem_body h).1 rfl
  simp only [List.mem_append, not_or]
  exact ⟨fun h => (Name.mem_tag_text h).2.1 rfl, hgap, hbody, by decide⟩

theorem openTag?_eq_none_of_read? {name : Run isTagChar} {p : Piece} (h : p.read? name = none)
    {t : List Char} (hne : t ≠ []) (ht : t <:+ p.text) (rest : List Char) :
    openTag? name.list (t ++ rest) = none := by
  cases p with
  | opening tag closed =>
    rcases List.suffix_cons_iff.mp ht with rfl | ht
    · have hother : ¬ tag.name.base.list = name.list := by
        intro hname
        rw [Piece.read?, if_pos hname] at h
        cases h
      exact (openTag?_text name tag closed rest).trans (if_neg hother)
    · exact openTag?_suffix (notMem_opening tag closed) hne ht rest
  | closing n =>
    rcases List.suffix_cons_iff.mp ht with rfl | ht
    · exact openTag?_closing name _
    · refine openTag?_suffix ?_ hne ht rest
      simp only [List.mem_cons, List.mem_append, not_or]
      exact ⟨by decide, fun h => (Name.mem_tag_text h).2.1 rfl, by decide, List.not_mem_nil⟩
  | blanks b =>
    exact openTag?_suffix (fun h => ne_of_isBlank (b.all _ h) (by decide) rfl) hne ht rest

/-- What a scan makes of a piece is the opening tag that it is, if it has the name. -/
theorem map_read? (name : Run isTagChar) (p : Piece) (start : Nat) :
    (p.read? name).map (fun body =>
      Tag.ofFound ⟨body, start, start + p.text.length, p.text⟩) =
      ((p.placed? start).filter (fun q => q.tag.name.base = name)).map (fun q => .ok q.toTag) := by
  cases p with
  | closing n => rfl
  | blanks b => rfl
  | opening tag closed =>
    by_cases hname : tag.name.base = name
    · have hread : Piece.read? name (.opening tag closed) = some (tag.body closed) := by
        rw [Piece.read?, if_pos (congrArg (·.list) hname)]
      rw [hread, Option.map_some, Tag.ofFound, OpenTag.readAttributes_attributeText,
        OpenTag.closesItself_body]
      simp [Piece.placed?, Option.filter_some, hname, PlacedTag.toTag, Piece.text, Except.map]
    · have hlist : tag.name.base.list ≠ name.list := fun h => hname (Run.ext h)
      rw [Piece.read?, if_neg hlist]
      simp [Piece.placed?, Option.filter_some, hname]

/-- A scan for a name finds the opening tags of the elements whose local name it is. -/
theorem scanTags_openTags (name : Run isTagChar) (d : Document) :
    scanTags (String.ofList name.list) d.text =
      .ok ((d.openTags.filter (fun p => p.tag.name.base = name)).map PlacedTag.toTag) := by
  have hfound := findFrom_flatMap (Piece.read? name) (fun p body => openTag?_of_read?)
    (fun p hread t hne ht rest => openTag?_eq_none_of_read? hread hne ht rest) 0 d.pieces
  rw [scanTags, writtenTags, String.toList_ofList, findAll, Document.text, hfound, mapM_eq_ok,
    List.map_filterMap, Document.openTags, List.filter_filterMap, List.map_map, List.map_filterMap]
  refine congrArg (List.filterMap · _) (funext fun p => ?_)
  rw [Option.map_map]
  exact map_read? name p.1 p.2

/-- **Scanning is exact.** A scan of a printed document for the tags of a name succeeds and finds
the opening tags of the elements whose local name it is, in document order, each at its place, with
its attributes as they were printed and with whether it closes itself. -/
theorem scanTags_text (name : Run isTagChar) (d : Document) :
    scanTags (String.ofList name.list) d.text =
        .ok ((d.openTags.filter (fun p => p.tag.name.base = name)).map PlacedTag.toTag) ∧
      d.openTags.map (fun p => (p.tag, p.closed)) =
        d.elements.map (fun e => (e.tag, e.children.isEmpty)) ∧
      ∀ p ∈ d.openTags, ∃ before after,
        d.text = before ++ p.tag.text p.closed ++ after ∧ p.start = before.length := by
  refine ⟨scanTags_openTags name d, d.map_openTags, fun p hp => ?_⟩
  exact Document.exists_of_mem_openTags hp

/-- A value that looks like markup comes back, and a longer name is another name. -/
theorem scanTags_text_nested :
    let none : Blanks := ⟨[], by simp⟩
    let valued : String → Attribute := fun value =>
      { gap := Run.of [' '] (by decide)
        name := ⟨.none, Run.of ['N'] (by decide)⟩
        value }
    let outer : OpenTag :=
      { name := ⟨some (Run.of ['p'] (by decide)), Run.of ['I', 't'] (by decide)⟩
        first := valued "a &lt; \x22b\x22", more := [valued "c"], tail := none }
    let inner : OpenTag :=
      { name := ⟨.none, Run.of ['I', 't', 'm'] (by decide)⟩
        first := valued "<It N=", more := [], tail := none }
    let d : Document := ⟨none, [.node outer none [.node inner none [] none] none]⟩
    String.ofList d.text =
        "<p:It N=\"a &amp;lt; &quot;b&quot;\" N=\"c\"><Itm N=\"&lt;It N=\"/></p:It>" ∧
      (scanTags "It" d.text).toOption.map (·.map (fun t =>
          (t.attributes, t.start, t.stop, t.selfClosing))) =
        some [([("N", "a &lt; \x22b\x22")], 0, 41, false)] := by
  intro none valued outer inner d
  have hscan : scanTags "It" d.text = _ := (scanTags_text (Run.of ['I', 't'] (by decide)) d).1
  refine ⟨by decide +kernel, ?_⟩
  rw [hscan]
  decide +kernel

end Formwork.Form
