import Mathlib.Data.List.Basic
import Formwork.Application.Grouping

/-!
# Rows that become fields

`Row.placed` is the field that a row becomes under a given id. Placing a list of fields is then a
plain map: fresh ids are drawn in the order of the list, and a field that is settled already is
returned as it is, without an id being drawn.
-/
namespace Formwork

theorem IdSource.id_ne_empty (src : IdSource) (n : Nat) : src.id n ≠ "" := by
  intro h
  have hl := congrArg String.length h
  simp only [IdSource.id, IdSource.padded, String.length_append, String.length_ofList,
    List.length_replicate, String.length_empty] at hl
  omega

/-- A computation runs on the state that the one before it leaves. -/
theorem Numbered.run_bind {α β : Type} (x : Numbered α) (f : α → Numbered β) (src : IdSource) :
    (x >>= f).run src = (f (x.run src).1).run (x.run src).2 := rfl

theorem Numbered.run_pure {α : Type} (a : α) (src : IdSource) :
    (pure a : Numbered α).run src = (a, src) := rfl

namespace Row

@[simp] theorem resolve_area (mark : String) (r : Row) : (r.resolve mark).area = r.area := by
  unfold resolve; split <;> rfl

@[simp] theorem resolve_tabName (mark : String) (r : Row) :
    (r.resolve mark).tabName = r.tabName := by
  unfold resolve; split <;> rfl

@[simp] theorem resolve_subTabName (mark : String) (r : Row) :
    (r.resolve mark).subTabName = r.subTabName := by
  unfold resolve; split <;> rfl

@[simp] theorem resolve_relationship (mark : String) (r : Row) :
    (r.resolve mark).relationship = r.relationship := by
  unfold resolve; split <;> rfl

@[simp] theorem resolve_settle (mark : String) (r : Row) :
    r.settle.resolve mark = (r.resolve mark).settle := by
  unfold resolve settle; dsimp only; split <;> rfl

/-- A derived name is derived again from the same label, also when it is empty. -/
@[simp] theorem resolve_resolve (mark : String) (r : Row) :
    (r.resolve mark).resolve mark = r.resolve mark := by
  by_cases h : r.fieldName.truthy
  · have hr : r.resolve mark = r := by rw [resolve, if_pos h]
    rw [hr, hr]
  · have hr : r.resolve mark = { r with fieldName := .text (nameOfLabel mark r.label.words) } := by
      rw [resolve, if_neg h]
    rw [hr, resolve]
    split <;> rfl

theorem settle_inputMode (r : Row) : r.settle.settle.inputMode = r.settle.inputMode := by
  cases h : r.inputMode.word == "" with
  | true => simp only [settle, h, if_true, ite_self]
  | false => simp only [settle, h, Bool.false_eq_true, if_false]

theorem settle_maxType (r : Row) : r.settle.settle.maxType = r.settle.maxType := by
  cases h : r.maxType.word == "" with
  | true => simp only [settle, h, if_true, ite_self]
  | false => simp only [settle, h, Bool.false_eq_true, if_false]

/-- Writing a row and reading it back a second time changes nothing more. -/
@[simp] theorem settle_settle (r : Row) : r.settle.settle = r.settle := by
  have hstep : r.settle.settle = { r.settle with
      inputMode := r.settle.settle.inputMode
      maxType := r.settle.settle.maxType } := rfl
  rw [hstep, settle_inputMode, settle_maxType]

@[simp] theorem binding_settle (r : Row) : r.settle.binding = r.binding := rfl

/-- The field that a row becomes under an id. -/
def placed (mark id : String) (r : Row) : Field :=
  { (r.resolve mark).settle with id, dataattribute := (r.resolve mark).binding }

@[simp] theorem placed_id (mark id : String) (r : Row) : (r.placed mark id).id = id := rfl

@[simp] theorem placed_area (mark id : String) (r : Row) : (r.placed mark id).area = r.area :=
  resolve_area mark r

@[simp] theorem placed_tabName (mark id : String) (r : Row) :
    (r.placed mark id).tabName = r.tabName :=
  resolve_tabName mark r

@[simp] theorem placed_subTabName (mark id : String) (r : Row) :
    (r.placed mark id).subTabName = r.subTabName :=
  resolve_subTabName mark r

@[simp] theorem placed_relationship (mark id : String) (r : Row) :
    (r.placed mark id).relationship = r.relationship :=
  resolve_relationship mark r

@[simp] theorem placed_tab (mark id : String) (s : Settings) (r : Row) :
    (r.placed mark id).toRow.tab s = r.tab s := by
  simp only [tab, placed_tabName]

@[simp] theorem placed_table (mark id : String) (s : Settings) (r : Row) :
    (r.placed mark id).toRow.table s = r.table s := by
  simp only [table, placed_relationship]

/-- A row that has its name already becomes the same field. -/
theorem placed_resolve (mark id : String) (r : Row) :
    (r.resolve mark).placed mark id = r.placed mark id := by
  simp only [placed, resolve_resolve]

/-- Placing the row of a placed field again gives that field. -/
theorem placed_placed (mark id : String) (r : Row) :
    (r.placed mark id).toRow.placed mark id = r.placed mark id := by
  simp only [placed, resolve_settle, resolve_resolve, settle_settle, binding_settle]

end Row

namespace Field

/-- The name, the id and the binding of a field are settled. -/
structure Settled (mark : String) (f : Field) : Prop where
  id_ne_empty : f.id ≠ ""
  placed_eq : f.toRow.placed mark f.id = f

theorem settled_placed (mark : String) (r : Row) (src : IdSource) (n : Nat) :
    Settled mark (r.placed mark (src.id n)) :=
  ⟨src.id_ne_empty n, r.placed_placed mark (src.id n)⟩

/-- A row without an id draws the next one. -/
theorem run_place_ofRow (mark : String) (r : Row) (src : IdSource) :
    ((ofRow r).place mark).run src =
      (r.placed mark (src.id (src.drawn + 1)), { src with drawn := src.drawn + 1 }) := rfl

/-- A settled field draws no id. -/
theorem Settled.run_place {mark : String} {f : Field} (h : Settled mark f) (src : IdSource) :
    (f.place mark).run src = (f, src) := by
  have hid : (f.id == "") = false := by simpa using h.id_ne_empty
  have hrun : (f.place mark).run src = (f.toRow.placed mark f.id, src) := by
    simp only [place, hid, Bool.false_eq_true, if_false]
    rfl
  rw [hrun, h.placed_eq]

theorem run_mapM_place_ofRow (mark : String) (rows : List Row) :
    ∀ src : IdSource, ((rows.map ofRow).mapM (place mark)).run src =
      (rows.mapIdx (fun i r => r.placed mark (src.id (src.drawn + i + 1))),
        { src with drawn := src.drawn + rows.length }) := by
  induction rows with
  | nil => intro src; rfl
  | cons r rows ih =>
    intro src
    rw [List.map_cons, List.mapM_cons, Numbered.run_bind, run_place_ofRow, Numbered.run_bind, ih,
      Numbered.run_pure, List.mapIdx_cons]
    have hdrawn : ∀ i, src.drawn + 1 + i + 1 = src.drawn + (i + 1) + 1 := by omega
    have hlast : src.drawn + 1 + rows.length = src.drawn + (rows.length + 1) := by omega
    simp only [hdrawn, hlast, List.length_cons, Nat.add_zero]
    rfl

theorem run_mapM_place_settled (mark : String) (fields : List Field)
    (h : ∀ f ∈ fields, Settled mark f) (src : IdSource) :
    (fields.mapM (place mark)).run src = (fields, src) := by
  induction fields with
  | nil => rfl
  | cons f fields ih =>
    rw [List.mapM_cons, Numbered.run_bind, (h f List.mem_cons_self).run_place, Numbered.run_bind,
      ih fun g hg => h g (List.mem_cons_of_mem f hg), Numbered.run_pure]

end Field

end Formwork
