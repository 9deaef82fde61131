import Mathlib.Logic.Function.Basic
import Formwork.Proofs.Classes
import Formwork.Row.Basic

/-!
# Rows read from values

A row is read from a mapping value by value. `Row.set_reading` says what one value does: it is
refused, or it counts for its attribute from then on and leaves the other attributes as they are. So
what is read in the end is `Row.reading` of the values that are given last, and the values that are
refused are told by `Row.Refused`: infinite numbers for the attributes that are numbers, and
integers of too many digits for those of which the text counts.
-/
namespace Formwork

/-! ## Numbers that values spell -/

/-- Whether a number is infinite. -/
def Double.isInfinite : Double → Bool
  | .infinite _ => true
  | _ => false

namespace Value

/-- The integer that a value is or spells: the integer part of a finite number. -/
def whole? : Value → Option Int
  | .bool b => some (if b then 1 else 0)
  | .int i => some i
  | .double x => x.truncate?
  | .text s => (readInteger? s).or ((readDecimal? s).bind Double.truncate?)
  | _ => none

/-- Whether a value is or spells an infinite number. -/
def isInfinite : Value → Bool
  | .double x => x.isInfinite
  | .text s => (readInteger? s).isNone && (readDecimal? s).any Double.isInfinite
  | _ => false

theorem wholePart_eq (default : Int) (x : Double) :
    wholePart default x =
      if x.isInfinite then .error .infinite else .ok (x.truncate?.getD default) := by
  cases x <;> rfl

theorem integerOr_eq (default : Int) (v : Value) :
    v.integerOr default =
      if v.isInfinite then .error .infinite else .ok (v.whole?.getD default) := by
  cases v with
  | double x => exact wholePart_eq default x
  | text s =>
    cases hinteger : readInteger? s with
    | some i => simp [integerOr, isInfinite, whole?, hinteger]
    | none =>
      cases hdecimal : readDecimal? s with
      | some x => simp [integerOr, isInfinite, whole?, hinteger, hdecimal, wholePart_eq]
      | none => simp [integerOr, isInfinite, whole?, hinteger, hdecimal]
  | _ => rfl

end Value

namespace Row

/-! ## One value -/

/-- The place among the rows of its group that a value gives. -/
def placeOf (v : Value) : Option Int :=
  if v = .null ∨ v = .text "" then none else some (v.whole?.getD 0)

/-- The row whose attributes are read from the values that are given for them, where none is given
with their defaults. -/
def reading (given : String → Option Value) : Row where
  fieldName := (given "field_name").elim (.text "") Value.orEmpty
  label := (given "label").elim (.text "") Value.orEmpty
  control := (given "type").elim .textbox (Vocabulary.read .textbox)
  inputMode := (given "input_mode").elim .optional
    (fun v => Vocabulary.read .optional (v.orElse (.text "optional")))
  lookup := (given "lookup").elim (.text "") Value.orEmpty
  relationship := (given "relationship").elim (.text "") Value.orEmpty
  applink := (given "applink").elim (.text "") Value.orEmpty
  width := (given "width").elim "" Value.plain
  filterable := (given "filterable").elim false (Value.flagOr false)
  sortable := (given "sortable").elim false (Value.flagOr false)
  area := (given "area").elim .header (Vocabulary.read .header)
  tabName := (given "tab_name").elim (.text "") Value.orEmpty
  subTabName := (given "sub_tab_name").elim (.text "") Value.orEmpty
  column := ((given "column").bind Value.whole?).getD 0
  order := (given "order").bind placeOf
  descDataattribute := (given "desc_dataattribute").elim (.text "") Value.orEmpty
  descLabel := (given "desc_label").elim (.text "") Value.orEmpty
  descInputMode := (given "desc_input_mode").elim (.text "") Value.orEmpty
  mxevent := (given "mxevent").elim (.text "") Value.orEmpty
  maxType := (given "max_type").elim .aln
    (fun v => Vocabulary.read .aln (v.orElse (.text "ALN")))
  length := ((given "length").bind Value.whole?).getD 100
  scale := ((given "scale").bind Value.whole?).getD 0
  dbRequired := (given "db_required").elim false (Value.flagOr false)
  defaultValue := (given "default_value").elim (.text "") Value.orEmpty
  persistent := (given "persistent").elim true (Value.flagOr true)
  title := (given "title").elim (.text "") Value.orEmpty
  objectName := (given "object_name").elim (.text "") Value.orEmpty

/-- The attributes that are numbers. -/
def countNames : List String := ["column", "order", "length", "scale"]

/-- The attributes of which the text counts. -/
def shownNames : List String := ["type", "input_mode", "width", "area", "max_type"]

/-- What a value is refused with as the value of an attribute. -/
def refusal? (name : String) (v : Value) : Option Error :=
  if name ∈ countNames ∧ v.isInfinite then some .infinite
  else if name ∈ shownNames ∧ v.overlong then some .overlong
  else none

/-- A place that is left out is none, and only after that is a number looked for. -/
theorem set_reading_order (given : String → Option Value) (v : Value) :
    (reading given).set "order" v =
      if v.isInfinite then .error .infinite
      else .ok (reading (Function.update given "order" (some v))) := by
  simp only [Row.set, Bool.or_eq_true, beq_iff_eq]
  split
  · next h =>
    have hfinite : v.isInfinite = false := by rcases h with rfl | rfl <;> decide
    simp [hfinite, reading, placeOf, h]
  · next h =>
    rw [Value.integerOr_eq]
    cases v.isInfinite
    · simp [reading, placeOf, h]
      rfl
    · rfl

/-- A value is refused, or it is the value of its attribute from then on. -/
theorem set_reading (given : String → Option Value) (name : String) (v : Value) :
    (reading given).set name v =
      (refusal? name v).elim (.ok (reading (Function.update given name (some v)))) .error := by
  by_cases horder : name = "order"
  · subst horder
    rw [set_reading_order]
    cases h : v.isInfinite <;> simp [refusal?, countNames, shownNames, h]
  have hupdate (k : String) :
      Function.update given name (some v) k = if name = k then some v else given k := by
    simp only [Function.update_apply, eq_comm]
  unfold Row.set
  -- One case for every attribute and one for the names that are passed over; what is left after
  -- the look-ups is to compare the refusals.
  split
  all_goals try simp only [imp_false] at *
  all_goals simp [*, refusal?, countNames, shownNames, reading, Value.integerOr_eq, Value.showable]
  all_goals first
    | (cases v.overlong <;> rfl)
    | (cases v.isInfinite <;> rfl)
    | contradiction

/-! ## Values one after the other -/

/-- Reading values one after the other gives the row of the values that are given last. -/
theorem foldlM_set_reading (pairs : List (String × Value)) (given : String → Option Value) :
    pairs.foldlM (fun r (name, v) => r.set name v) (reading given) =
      (pairs.findSome? (fun p => refusal? p.1 p.2)).elim
        (.ok (reading (fun name => (lastValue? name pairs).or (given name)))) .error := by
  induction pairs generalizing given with
  | nil => rfl
  | cons p pairs ih =>
    obtain ⟨name, v⟩ := p
    rw [List.foldlM_cons, List.findSome?_cons]
    change (reading given).set name v >>= _ = _
    rw [set_reading]
    cases refusal? name v with
    | some e => rfl
    | none =>
      have hgiven : (fun k => (lastValue? k pairs).or (Function.update given name (some v) k)) =
          fun k => (lastValue? k ((name, v) :: pairs)).or (given k) := by
        funext k
        rw [lastValue?_cons, Function.update_apply, Option.or_assoc]
        by_cases h : k = name <;> simp [h]
      rw [← hgiven]
      exact ih (Function.update given name (some v))

theorem ofPairs_eq (pairs : List (String × Value)) :
    ofPairs pairs =
      ((lastValues pairs).findSome? (fun p => refusal? p.1 p.2)).elim
        (.ok (reading (lastValue? · pairs))) .error := by
  refine (foldlM_set_reading (lastValues pairs) (fun _ => none)).trans ?_
  simp only [lastValue?_lastValues, Option.or_none]

/-! ## Mappings -/

/-- What the values that are given for the attributes are refused with. -/
inductive Refused (given : String → Option Value) : Error → Prop
  | infinite {name : String} {v : Value} :
    name ∈ countNames → given name = some v → v.isInfinite → Refused given .infinite
  | overlong {name : String} {v : Value} :
    name ∈ shownNames → given name = some v → v.overlong → Refused given .overlong

theorem refused_iff {given : String → Option Value} {e : Error} :
    Refused given e ↔ ∃ name v, given name = some v ∧ refusal? name v = some e := by
  have hapart : ∀ name ∈ shownNames, name ∉ countNames := by decide
  constructor
  · intro h
    cases h with
    | @infinite name v hname hgiven hv => exact ⟨name, v, hgiven, by simp [refusal?, hname, hv]⟩
    | @overlong name v hname hgiven hv =>
      exact ⟨name, v, hgiven, by simp [refusal?, hname, hapart name hname, hv]⟩
  · rintro ⟨name, v, hgiven, h⟩
    unfold refusal? at h
    split at h
    · next hcount =>
      cases h
      exact .infinite hcount.1 hgiven hcount.2
    · split at h
      · next hshown =>
        cases h
        exact .overlong hshown.1 hgiven hshown.2
      · cases h

/-- The pairs of a mapping under the names of the attributes that their keys name. -/
def renamed (d : List (String × Value)) : List (String × Value) :=
  d.map (fun p => (Record.snakeKey p.1, p.2))

/-- The values that a mapping gives for the attributes. Of the values for one attribute the last
counts. -/
def givenBy (d : List (String × Value)) (name : String) : Option Value :=
  lastValue? name (renamed d)

theorem named_ofPairs (d : List (String × Value)) :
    Record.named (d.map (fun p => (.text p.1, p.2))) = .ok (renamed d) := by
  induction d with
  | nil => rfl
  | cons p d ih =>
    rw [Record.named, List.map_cons, List.mapM_cons] at *
    rw [ih]
    rfl

theorem ofValue_ofPairs (d : List (String × Value)) :
    ofValue (.ofPairs d) = ofPairs (renamed d) := by
  change (Record.named (d.map (fun p => (.text p.1, p.2))) >>= ofPairs) = _
  rw [named_ofPairs]
  rfl

/-- Reading a mapping fails with the refusal of a value that it gives, or gives the row of the
values that it gives. -/
theorem ofValue_cases (d : List (String × Value)) :
    (∃ e, ofValue (.ofPairs d) = .error e ∧ Refused (givenBy d) e) ∨
      (ofValue (.ofPairs d) = .ok (reading (givenBy d)) ∧ ∀ e, ¬ Refused (givenBy d) e) := by
  rw [ofValue_ofPairs, ofPairs_eq]
  cases h : (lastValues (renamed d)).findSome? (fun p => refusal? p.1 p.2) with
  | some e =>
    obtain ⟨⟨name, v⟩, hmem, hrefusal⟩ := List.exists_of_findSome?_eq_some h
    exact .inl ⟨e, rfl, refused_iff.mpr ⟨name, v, mem_lastValues.mp hmem, hrefusal⟩⟩
  | none =>
    refine .inr ⟨rfl, fun e he => ?_⟩
    obtain ⟨name, v, hv, hrefusal⟩ := refused_iff.mp he
    rw [List.findSome?_eq_none_iff] at h
    rw [h (name, v) (mem_lastValues.mpr hv)] at hrefusal
    cases hrefusal

/-- A text that is no number gives the place zero, not none. -/
example : placeOf (.text "first") = some 0 := by decide

end Row

end Formwork
