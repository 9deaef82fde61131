import Formwork.Proofs.Application.Placement

/-!
# The fields that rows become

Grouping clears the sub-tabs of rows, gives every row a name, an id and a binding, and builds the
tree of the fields that result. A field is clear and settled from then on.
-/
namespace Formwork

namespace Row

/-- A row whose sub-tab is cleared unless it is configured, where sub-tabs are configured at all. -/
def cleared (s : Settings) (c : Option SubTabEntries) (r : Row) : Row :=
  c.elim r (fun c => r.clearSubTab s c)

/-- Clearing changes nothing but the name of the sub-tab. -/
theorem clearSubTab_eq (s : Settings) (c : SubTabEntries) (r : Row) :
    r.clearSubTab s c = { r with subTabName := (r.clearSubTab s c).subTabName } := by
  unfold clearSubTab; split <;> rfl

theorem clearSubTab_clearSubTab (s : Settings) (c : SubTabEntries) (r : Row) :
    (r.clearSubTab s c).clearSubTab s c = r.clearSubTab s c := by
  by_cases h : (r.subTabName.truthy && !c.has (r.tab s) r.subTabName) = true
  · have hr : r.clearSubTab s c = { r with subTabName := .text "" } := by
      rw [clearSubTab, if_pos h]
    rw [hr]
    rfl
  · have hr : r.clearSubTab s c = r := by rw [clearSubTab, if_neg h]
    rw [hr, hr]

/-- Whether a sub-tab is cleared is seen from the sub-tab and the tab. -/
theorem clearSubTab_eq_self {s : Settings} {c : SubTabEntries} {r q : Row}
    (hsub : q.subTabName = r.subTabName) (htab : q.tab s = r.tab s)
    (h : r.clearSubTab s c = r) : q.clearSubTab s c = q := by
  by_cases hq : (q.subTabName.truthy && !c.has (q.tab s) q.subTabName) = true
  · have hr := hq
    rw [hsub, htab] at hr
    have hname : Value.text "" = r.subTabName := by
      rw [clearSubTab, if_pos hr] at h
      exact congrArg subTabName h
    rw [← hname] at hr
    cases hr
  · rw [clearSubTab, if_neg hq]

@[simp] theorem cleared_area (s : Settings) (c : Option SubTabEntries) (r : Row) :
    (r.cleared s c).area = r.area := by
  cases c with
  | none => rfl
  | some c =>
    rw [cleared, Option.elim_some, clearSubTab_eq]

@[simp] theorem cleared_fieldName (s : Settings) (c : Option SubTabEntries) (r : Row) :
    (r.cleared s c).fieldName = r.fieldName := by
  cases c with
  | none => rfl
  | some c =>
    rw [cleared, Option.elim_some, clearSubTab_eq]

/-- The name of a row and its sub-tab are settled apart from each other. -/
theorem cleared_resolve (s : Settings) (c : Option SubTabEntries) (mark : String) (r : Row) :
    (r.resolve mark).cleared s c = (r.cleared s c).resolve mark := by
  cases c with
  | none => rfl
  | some c =>
    have hsub : (r.resolve mark).subTabName = r.subTabName := resolve_subTabName mark r
    have htab : (r.resolve mark).tab s = r.tab s := by rw [tab, tab, resolve_tabName]
    simp only [cleared, Option.elim_some, clearSubTab, hsub, htab]
    split
    · unfold resolve
      dsimp only
      split <;> rfl
    · rfl

end Row

namespace Application

/-- The fields that rows become: cleared, named, and with ids in the order of the rows. -/
def fieldsOf (s : Settings) (m : Option Metadata) (c : Option SubTabEntries) (src : IdSource)
    (rows : List Row) : List Field :=
  rows.mapIdx (fun i r => (r.cleared s c).placed (namingMark s m) (src.id (src.drawn + i + 1)))

variable {s : Settings} {m : Option Metadata} {labels : List (String × String)}
  {c : Option SubTabEntries}

/-- Grouping rows draws an id for every row, whether it is shown or not. -/
theorem run_ofRows (rows : List Row) (src : IdSource) :
    (ofRows s m labels c rows).run src =
      (ofFields s labels (c.getD []) (fieldsOf s m c src rows),
        { src with drawn := src.drawn + rows.length }) := by
  have hidx : (rows.map (Row.cleared s c)).mapIdx
      (fun i r => r.placed (namingMark s m) (src.id (src.drawn + i + 1))) =
      fieldsOf s m c src rows := List.ext_getElem? fun i => by simp [fieldsOf, Function.comp_def]
  have hplaced := Field.run_mapM_place_ofRow (namingMark s m) (rows.map (Row.cleared s c)) src
  rw [hidx, List.length_map] at hplaced
  cases c with
  | none =>
    have hrows : rows.map (Row.cleared s none) = rows := List.map_id rows
    rw [hrows] at hplaced
    rw [ofRows, group, Numbered.run_bind, hplaced, Numbered.run_pure]
  | some c =>
    have hrows : (rows.map Field.ofRow).map (Field.clearSubTab s c) =
        (rows.map (Row.cleared s (some c))).map Field.ofRow := by
      rw [List.map_map, List.map_map]
      rfl
    rw [ofRows, group, hrows, Numbered.run_bind, hplaced, Numbered.run_pure]

/-- Rows become the fields that the same rows with their names become. -/
theorem fieldsOf_resolveAll (rows : List Row) (src : IdSource) :
    fieldsOf s m c src (Row.resolveAll s m rows) = fieldsOf s m c src rows := by
  refine List.ext_getElem? fun i => ?_
  simp only [fieldsOf, Row.resolveAll, List.getElem?_mapIdx, List.getElem?_map, Option.map_map,
    Function.comp_def, Row.cleared_resolve, Row.placed_resolve]

theorem settled_of_mem_fieldsOf {src : IdSource} {rows : List Row} {f : Field}
    (hf : f ∈ fieldsOf s m c src rows) : f.Settled (namingMark s m) := by
  obtain ⟨i, hi, rfl⟩ := List.mem_mapIdx.mp hf
  exact Field.settled_placed _ _ src _

theorem clearSubTab_of_mem_fieldsOf {entries : SubTabEntries} {src : IdSource} {rows : List Row}
    {f : Field} (hf : f ∈ fieldsOf s m (some entries) src rows) :
    f.clearSubTab s entries = f := by
  obtain ⟨i, hi, rfl⟩ := List.mem_mapIdx.mp hf
  have hclear := Row.clearSubTab_eq_self
    (Row.placed_subTabName (namingMark s m) (src.id (src.drawn + i + 1)) _)
    (Row.placed_tab (namingMark s m) (src.id (src.drawn + i + 1)) s _)
    (Row.clearSubTab_clearSubTab s entries rows[i])
  rw [Field.clearSubTab]
  exact congrArg (fun r => { (((rows[i]).cleared s (some entries)).placed (namingMark s m)
    (src.id (src.drawn + i + 1))) with toRow := r }) hclear

end Application

end Formwork
