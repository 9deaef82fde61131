import Formwork.Proofs.Row.Reading
import Formwork.Proofs.Row.Vocabulary

/-!
# Rows read back

A row that was read is written as the mapping of its attributes that have a value. Reading this
mapping gives the row again, but for an input mode and a storage type without a word: these are
read as the default ones (`Row.settle`). Such a word comes from blanks that were given for it.
-/
namespace Formwork

namespace Row

/-! ## What every row that was read is -/

/-- Only the place may have no value, and every word is read as it stands. -/
structure IsRead (r : Row) : Prop where
  valued : ∀ p ∈ r.attributes, p.2 = .null → p.1 = "order"
  control : Vocabulary.ReadsBack r.control
  inputMode : Vocabulary.ReadsBack r.inputMode
  area : Vocabulary.ReadsBack r.area
  maxType : Vocabulary.ReadsBack r.maxType

theorem readsBack_elim {α : Type} [Vocabulary α] [LawfulVocabulary α] {missing : α}
    (hmissing : missing ∈ Vocabulary.members) (o : Option Value) (f : Value → Value) :
    Vocabulary.ReadsBack (o.elim missing (fun v => Vocabulary.read missing (f v))) := by
  cases o with
  | none => exact Vocabulary.readsBack_of_mem hmissing
  | some v => exact Vocabulary.readsBack_read hmissing (f v)

theorem isRead_reading (given : String → Option Value) : (reading given).IsRead where
  valued := by
    have htext (o : Option Value) : o.elim (.text "") Value.orEmpty ≠ .null := by
      cases o with
      | none => simp
      | some v => cases v <;> simp [Value.orEmpty]
    simp [attributes, reading, htext]
  control := readsBack_elim (by decide) _ id
  inputMode := readsBack_elim (by decide) _ _
  area := readsBack_elim (by decide) _ id
  maxType := readsBack_elim (by decide) _ _

/-! ## The attributes of a row read back -/

variable {r : Row}

theorem map_fst_attributes (r : Row) :
    r.attributes.map (·.1) = ({} : Row).attributes.map (·.1) := rfl

theorem nodup_attributes (r : Row) : (r.attributes.map (·.1)).Nodup := by
  rw [map_fst_attributes]
  decide

theorem snakeKey_attributes : ∀ p ∈ r.attributes, Record.snakeKey p.1 = p.1 := by
  have hnames : ∀ name ∈ ({} : Row).attributes.map (·.1), Record.snakeKey name = name := by
    decide +kernel
  exact fun p hp => hnames p.1 (map_fst_attributes r ▸ List.mem_map_of_mem hp)

/-- No attribute of a row is refused. -/
theorem refusal?_attributes : ∀ p ∈ r.attributes, refusal? p.1 p.2 = none := by
  cases horder : r.order <;>
    simp [attributes, horder, refusal?, countNames, shownNames, Value.isInfinite]

/-- Of the attributes that have a value every one is found with its value. -/
theorem lastValue?_present {pairs : List (String × Value)} (hnd : (pairs.map (·.1)).Nodup)
    {p : String × Value} (hp : p ∈ pairs) :
    lastValue? p.1 (present pairs) = if p.2 = .null then none else some p.2 := by
  have hpresent (q : String × Value) : q ∈ present pairs ↔ q ∈ pairs ∧ q.2 ≠ .null := by
    simp [present]
  split
  · next hnull =>
    refine Option.eq_none_iff_forall_ne_some.mpr fun v hv => ?_
    obtain ⟨hmem, hne⟩ := (hpresent (p.1, v)).mp (mem_of_lastValue? hv)
    have hpair : (p.1, v) = p := List.inj_on_of_nodup_map hnd hmem hp rfl
    exact hne ((congrArg Prod.snd hpair).trans hnull)
  · next hne =>
    exact lastValue?_of_nodup (hnd.sublist (List.filter_sublist.map _)) ((hpresent p).mpr ⟨hp, hne⟩)

/-- Given the attributes of a row that was read, the row is read again, settled. -/
theorem reading_attributes (h : r.IsRead) {given : String → Option Value}
    (hgiven : ∀ p ∈ r.attributes, given p.1 = if p.2 = .null then none else some p.2) :
    reading given = r.settle := by
  have hvalue : ∀ p ∈ r.attributes, p.1 ≠ "order" → given p.1 = some p.2 ∧ p.2.orEmpty = p.2 := by
    intro p hp hne
    have hvalue : p.2 ≠ .null := fun hnull => hne (h.valued p hp hnull)
    refine ⟨by rw [hgiven p hp, if_neg hvalue], ?_⟩
    cases hv : p.2 <;> first | exact absurd hv hvalue | rfl
  have horder : (given "order").bind placeOf = r.order := by
    have hmem : ("order", r.order.elim .null .int) ∈ r.attributes := by simp [attributes]
    rw [hgiven _ hmem]
    cases r.order <;> simp [placeOf, Value.whole?]
  have hcontrol : Vocabulary.read .textbox (.text r.control.word) = r.control := h.control.read _
  have harea : Vocabulary.read .header (.text r.area.word) = r.area := h.area.read _
  have hinput : Vocabulary.read .optional ((Value.text r.inputMode.word).orElse
      (.text "optional")) = if r.inputMode.word == "" then .optional else r.inputMode :=
    Vocabulary.read_word_orElse (by decide) h.inputMode
  have hstorage : Vocabulary.read .aln ((Value.text r.maxType.word).orElse (.text "ALN")) =
      if r.maxType.word == "" then .aln else r.maxType :=
    Vocabulary.read_word_orElse (by decide) h.maxType
  have hwidth : (Value.text r.width).plain = r.width := rfl
  simp only [attributes, List.forall_mem_cons] at hvalue
  simp [reading, settle, hvalue, horder, hcontrol, harea, hinput, hstorage, hwidth,
    Value.flagOr, Value.whole?]

theorem mem_attributes_of_mem_toPairs {p : String × Value} (h : p ∈ r.toPairs) :
    p ∈ r.attributes :=
  (List.mem_filter.mp h).1

/-- A row that was read is read from its mapping as the settled one. -/
theorem IsRead.ofValue_settle (h : r.IsRead) :
    ofValue (.ofPairs r.toPairs) = .ok r.settle := by
  have hnd : (r.toPairs.map (·.1)).Nodup :=
    (nodup_attributes r).sublist (List.filter_sublist.map _)
  have hkeys : renamed r.toPairs = r.toPairs := by
    refine (List.map_congr_left fun p hp => ?_).trans (List.map_id _)
    exact Prod.ext (snakeKey_attributes p (mem_attributes_of_mem_toPairs hp)) rfl
  have hfree : r.toPairs.findSome? (fun p => refusal? p.1 p.2) = none :=
    List.findSome?_eq_none_iff.mpr fun p hp =>
      refusal?_attributes p (mem_attributes_of_mem_toPairs hp)
  have hreading : reading (lastValue? · r.toPairs) = r.settle :=
    reading_attributes h fun p hp => lastValue?_present (nodup_attributes r) hp
  rw [ofValue_ofPairs, hkeys, ofPairs_eq, lastValues_of_nodup hnd, hfree, hreading]
  rfl

theorem settle_eq_self_iff : r.settle = r ↔ r.inputMode.word ≠ "" ∧ r.maxType.word ≠ "" := by
  have hmode : r.settle.inputMode = r.inputMode ↔ r.inputMode.word ≠ "" :=
    Vocabulary.ite_word_eq_self_iff (by decide) r.inputMode
  have htype : r.settle.maxType = r.maxType ↔ r.maxType.word ≠ "" :=
    Vocabulary.ite_word_eq_self_iff (by decide) r.maxType
  rw [← hmode, ← htype]
  constructor
  · intro h
    exact ⟨congrArg inputMode h, congrArg maxType h⟩
  · rintro ⟨hmode, htype⟩
    calc r.settle
        = { r with inputMode := r.settle.inputMode, maxType := r.settle.maxType } := rfl
      _ = r := by rw [hmode, htype]

/-! ## Where the words are empty -/

/-- A value that counts, but has no character besides blanks. -/
def BlankGiven (given : String → Option Value) (name : String) : Prop :=
  ∃ v, given name = some v ∧ v.truthy ∧ Text.isBlankText v.toText = true

theorem word_elim_eq_empty_iff {α : Type} [Vocabulary α] [LawfulVocabulary α] (missing : α)
    (hmissing : missing ∈ Vocabulary.members) (given : String → Option Value) (name : String) :
    Vocabulary.word ((given name).elim missing
      (fun v => Vocabulary.read missing (v.orElse (.text (Vocabulary.word missing))))) = "" ↔
      BlankGiven given name := by
  unfold BlankGiven
  cases given name with
  | none => simp [LawfulVocabulary.word_ne_empty missing hmissing]
  | some v => simp [Vocabulary.word_read_orElse_eq_empty_iff hmissing v]

theorem settle_reading_iff (given : String → Option Value) :
    (reading given).settle = reading given ↔
      ¬ BlankGiven given "input_mode" ∧ ¬ BlankGiven given "max_type" := by
  have hmode : (reading given).inputMode.word = "" ↔ BlankGiven given "input_mode" :=
    word_elim_eq_empty_iff InputMode.optional (by decide) given "input_mode"
  have htype : (reading given).maxType.word = "" ↔ BlankGiven given "max_type" :=
    word_elim_eq_empty_iff StorageType.aln (by decide) given "max_type"
  rw [settle_eq_self_iff, ne_eq, ne_eq, hmode, htype]

/-- **Rows are read back.** A row that was read from a mapping is written as a mapping that is read
as the row, settled; this is the row itself exactly where no blanks stand for its input mode or its
storage type. -/
theorem ofValue_toPairs {d : List (String × Value)} {r : Row} (h : ofValue (.ofPairs d) = .ok r) :
    ofValue (.ofPairs r.toPairs) = .ok r.settle ∧
      (ofValue (.ofPairs r.toPairs) = .ok r ↔
        ¬ BlankGiven (givenBy d) "input_mode" ∧ ¬ BlankGiven (givenBy d) "max_type") := by
  obtain rfl : reading (givenBy d) = r := by
    rcases ofValue_cases d with ⟨e, he, -⟩ | ⟨hok, -⟩
    · simp [h] at he
    · simpa [h] using hok.symm
  have hback := (isRead_reading (givenBy d)).ofValue_settle
  refine ⟨hback, ?_⟩
  rw [hback, Except.ok.injEq, settle_reading_iff]

/-- A row with a required input mode, and with a length that is no number. -/
theorem ofValue_toPairs_required :
    ofValue (.ofPairs [("label", .text "Name"), ("inputMode", .text " Required "),
        ("length", .text "long")]) = .ok { label := .text "Name", inputMode := .required } ∧
      ofValue (.ofPairs (toPairs { label := .text "Name", inputMode := .required })) =
        .ok { label := .text "Name", inputMode := .required } := by
  have hread : ofValue (.ofPairs [("label", .text "Name"), ("inputMode", .text " Required "),
      ("length", .text "long")]) = .ok { label := .text "Name", inputMode := .required } := rfl
  exact ⟨hread, (ofValue_toPairs hread).1⟩

/-- A blank input mode is read as the empty word, and the empty word as the default one. -/
theorem ofValue_toPairs_blank :
    ∃ r, ofValue (.ofPairs [("label", .text "Name"), ("input_mode", .text " ")]) = .ok r ∧
      ofValue (.ofPairs r.toPairs) ≠ .ok r := by
  refine ⟨{ label := .text "Name", inputMode := .other "" }, rfl, ?_⟩
  have hback : ofValue (.ofPairs (toPairs { label := .text "Name", inputMode := .other "" })) =
      .ok { label := .text "Name" } := rfl
  rw [hback]
  simp

end Row

end Formwork
