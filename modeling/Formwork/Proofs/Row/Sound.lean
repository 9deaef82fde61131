import Mathlib.Data.List.Basic
import Formwork.Application.Metadata

/-!
# Sound rows

What is known of rows and metadata that nothing keeps from being generated.
-/
namespace Formwork.Row

variable {m : Option Metadata} {rows : List Row} {r : Row}

theorem requireSound_eq_ok_iff : requireSound m rows = .ok () ↔ blocking m rows = [] := by
  rw [requireSound]
  cases blocking m rows <;> simp

/-- The primary record has a name. -/
theorem record_of_requireSound {m : Metadata} (h : requireSound (some m) rows = .ok ()) :
    m.recordName.words ≠ "" := by
  intro hempty
  have hblocking := requireSound_eq_ok_iff.mp h
  rw [blocking, Option.all_some, hempty] at hblocking
  cases hblocking

/-- No row has a problem. -/
theorem problems_of_requireSound (h : requireSound m rows = .ok ()) (hr : r ∈ rows) :
    r.problems = [] := by
  have hblocking := requireSound_eq_ok_iff.mp h
  rw [blocking, List.append_eq_nil_iff, List.flatMap_eq_nil_iff] at hblocking
  obtain ⟨i, hi⟩ := List.getElem?_of_mem hr
  have hmem : (r, i) ∈ rows.zipIdx := by
    rw [List.mem_iff_getElem?]
    exact ⟨i, by simp [List.getElem?_zipIdx, hi]⟩
  exact List.map_eq_nil_iff.mp (hblocking.2 (r, i) hmem)

/-- The area of a row without problems is a known one. -/
theorem isKnownArea_of_problems (h : r.problems = []) : isKnownArea r.area = true := by
  simp only [problems, List.append_eq_nil_iff] at h
  obtain ⟨⟨⟨⟨-, harea⟩, -⟩, -⟩, -⟩ := h
  split at harea
  · cases harea
  · split at harea
    · next hknown => exact hknown
    · cases harea

/-- A detail row without problems has a relationship. -/
theorem relationship_of_problems (h : r.problems = []) (ha : r.area = .detail) :
    r.relationship.truthy = true := by
  simp only [problems, List.append_eq_nil_iff] at h
  obtain ⟨⟨⟨-, hrelationship⟩, -⟩, -⟩ := h
  split at hrelationship
  · cases hrelationship
  · next hcheck => simpa [ha] using hcheck

end Formwork.Row
