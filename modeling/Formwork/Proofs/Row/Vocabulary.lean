import Formwork.Proofs.Text.Blank
import Formwork.Row.Vocabulary

/-!
# Words read back

The word of what was read from a value is read again as the same member. A known member is told by
its word, and the word of an unknown one is kept without the blanks at its ends, so that it is
unknown again. Where an empty word counts as none, a default is read in its place, but blanks do not
count as none, although an empty word is read from them.
-/
namespace Formwork

/-- A vocabulary in which a known word tells its member, has no blanks at its ends and is not
empty. -/
class LawfulVocabulary (α : Type) [Vocabulary α] : Prop where
  known?_word : ∀ m ∈ Vocabulary.members (α := α), Vocabulary.known? (Vocabulary.word m) = some m
  trim_word : ∀ m ∈ Vocabulary.members (α := α), Text.trim (Vocabulary.word m) = Vocabulary.word m
  word_ne_empty : ∀ m ∈ Vocabulary.members (α := α), Vocabulary.word m ≠ ""
  known?_empty : Vocabulary.known? (α := α) "" = none
  word_other : ∀ text, Vocabulary.word (Vocabulary.other text : α) = text

instance : LawfulVocabulary Control where
  known?_word := by decide +kernel
  trim_word := by decide +kernel
  word_ne_empty := by decide
  known?_empty := by decide +kernel
  word_other _ := rfl

instance : LawfulVocabulary InputMode where
  known?_word := by decide +kernel
  trim_word := by decide +kernel
  word_ne_empty := by decide
  known?_empty := by decide +kernel
  word_other _ := rfl

instance : LawfulVocabulary Area where
  known?_word := by decide +kernel
  trim_word := by decide +kernel
  word_ne_empty := by decide
  known?_empty := by decide +kernel
  word_other _ := rfl

instance : LawfulVocabulary StorageType where
  known?_word := by decide +kernel
  trim_word := by decide +kernel
  word_ne_empty := by decide
  known?_empty := by decide +kernel
  word_other _ := rfl

namespace Vocabulary

variable {α : Type} [Vocabulary α]

theorem mem_of_known? {text : String} {m : α} (h : known? text = some m) : m ∈ members :=
  List.mem_of_find?_eq_some h

theorem read_of_ne_null (missing : α) {v : Value} (h : v ≠ .null) :
    read missing v = (known? (Text.trim v.toText)).getD (other (Text.trim v.toText)) := by
  cases v with
  | null => exact absurd rfl h
  | _ => rfl

/-- The member is read from its word. -/
def ReadsBack (m : α) : Prop :=
  Text.trim (word m) = word m ∧ (known? (word m)).getD (other (word m)) = m

theorem ReadsBack.read {m : α} (h : ReadsBack m) (missing : α) :
    read missing (.text (word m)) = m := by
  rw [read_of_ne_null missing (by simp)]
  change (known? (Text.trim (word m))).getD (other (Text.trim (word m))) = m
  rw [h.1, h.2]

variable [LawfulVocabulary α]

theorem readsBack_of_mem {m : α} (h : m ∈ members) : ReadsBack m := by
  refine ⟨LawfulVocabulary.trim_word m h, ?_⟩
  rw [LawfulVocabulary.known?_word m h, Option.getD_some]

theorem readsBack_read {missing : α} (hmissing : missing ∈ members) (v : Value) :
    ReadsBack (read missing v) := by
  by_cases hv : v = .null
  · subst hv
    exact readsBack_of_mem hmissing
  rw [read_of_ne_null missing hv]
  cases hknown : known? (α := α) (Text.trim v.toText) with
  | some m => exact readsBack_of_mem (mem_of_known? hknown)
  | none =>
    rw [Option.getD_none, ReadsBack, LawfulVocabulary.word_other, hknown]
    exact ⟨Text.trim_trim v.toText, rfl⟩

/-- An empty word is read from blanks. -/
theorem word_read_eq_empty_iff (missing : α) {v : Value} (h : v ≠ .null) :
    word (read missing v) = "" ↔ Text.isBlankText v.toText = true := by
  rw [read_of_ne_null missing h, ← Text.trim_eq_empty_iff]
  cases hknown : known? (α := α) (Text.trim v.toText) with
  | some m =>
    have hne : Text.trim v.toText ≠ "" := by
      intro hempty
      rw [hempty, LawfulVocabulary.known?_empty] at hknown
      cases hknown
    simp [LawfulVocabulary.word_ne_empty m (mem_of_known? hknown), hne]
  | none => rw [Option.getD_none, LawfulVocabulary.word_other]

/-! ## Words that stand for nothing -/

variable {missing : α}

/-- An empty word counts as none, and a default is read in its place. -/
theorem read_word_orElse (hmissing : missing ∈ members) {m : α} (h : ReadsBack m) :
    read missing ((Value.text (word m)).orElse (.text (word missing))) =
      if word m == "" then missing else m := by
  by_cases hempty : word m = ""
  · simp [Value.orElse, Value.truthy, hempty, (readsBack_of_mem hmissing).read]
  · simp [Value.orElse, Value.truthy, hempty, h.read]

/-- Only an empty word is replaced. -/
theorem ite_word_eq_self_iff (hmissing : missing ∈ members) (m : α) :
    (if word m == "" then missing else m) = m ↔ word m ≠ "" := by
  by_cases h : word m = ""
  · simp only [h, beq_self_eq_true, if_true, ne_eq, not_true_eq_false, iff_false]
    rintro rfl
    exact LawfulVocabulary.word_ne_empty missing hmissing h
  · simp [h]

/-- Blanks do not count as none, and an empty word is read from them. -/
theorem word_read_orElse_eq_empty_iff (hmissing : missing ∈ members) (v : Value) :
    word (read missing (v.orElse (.text (word missing)))) = "" ↔
      v.truthy ∧ Text.isBlankText v.toText = true := by
  by_cases hv : v.truthy
  · have hne : v ≠ .null := by
      rintro rfl
      cases hv
    simp [Value.orElse, hv, word_read_eq_empty_iff missing hne]
  · simp [Value.orElse, hv, (readsBack_of_mem hmissing).read,
      LawfulVocabulary.word_ne_empty missing hmissing]

end Vocabulary

end Formwork
