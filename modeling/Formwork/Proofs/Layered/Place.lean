import Mathlib.Data.List.Pairwise
import Mathlib.Data.Rat.Defs
import Mathlib.Data.Set.Defs
import Mathlib.Tactic.Linarith
import Mathlib.Tactic.Ring
import Formwork.Diagram.Layout
import Formwork.Proofs.Layered.Layers

/-!
# The places of nodes in rows

With rational numbers for coordinates, places can be compared. The nodes of a row stand beside each
other in one line, the rows stand below each other, and every row is as far from the left end of the
widest row as from its right end.
-/
namespace Formwork.Layered

open Diagram (Node)

instance : Coordinate ℚ where
  zero := 0
  add := (· + ·)
  sub := (· - ·)
  half := (· / 2)
  scale n x := n * x
  less a b := decide (a < b)

/-! ## Sums and greatest numbers -/

theorem total_cons (x : ℚ) (xs : List ℚ) : total (x :: xs) = x + total xs := by
  have hshift : ∀ (xs : List ℚ) (a b : ℚ), xs.foldl Coordinate.add (a + b) =
      a + xs.foldl Coordinate.add b := by
    intro xs
    induction xs with
    | nil => exact fun a b => rfl
    | cons y xs ih =>
      intro a b
      have hassoc : Coordinate.add (a + b) y = a + Coordinate.add b y := add_assoc a b y
      rw [List.foldl_cons, List.foldl_cons, hassoc, ih]
  have hstart : Coordinate.add Coordinate.zero x = x + (Coordinate.zero : ℚ) := add_comm _ x
  rw [total, List.foldl_cons, hstart, hshift]
  rfl

theorem greatest_cons_cons (a b : ℚ) (xs : List ℚ) :
    greatest (a :: b :: xs) = greatest (max a b :: xs) := by
  have hmax : (if Coordinate.less a b then b else a) = max a b := by
    rw [max_def_lt]
    exact if_congr decide_eq_true_iff rfl rfl
  rw [greatest, List.foldl_cons, hmax, greatest]

theorem greatest_mem {xs : List ℚ} (hne : xs ≠ []) : greatest xs ∈ xs := by
  obtain ⟨a, xs, rfl⟩ := List.exists_cons_of_ne_nil hne
  clear hne
  induction xs generalizing a with
  | nil => exact List.mem_singleton_self a
  | cons b xs ih =>
    rw [greatest_cons_cons]
    rcases List.mem_cons.mp (ih (max a b)) with heq | hmem
    · rw [heq]
      rcases max_choice a b with h | h <;> simp [h]
    · exact List.mem_cons_of_mem a (List.mem_cons_of_mem b hmem)

theorem le_greatest {xs : List ℚ} {x : ℚ} (hx : x ∈ xs) : x ≤ greatest xs := by
  obtain ⟨a, xs, rfl⟩ := List.exists_cons_of_ne_nil (List.ne_nil_of_mem hx)
  induction xs generalizing a x with
  | nil => exact (List.mem_singleton.mp hx).le
  | cons b xs ih =>
    rw [greatest_cons_cons]
    have hmax : max a b ≤ greatest (max a b :: xs) := ih (max a b) List.mem_cons_self
    rcases List.mem_cons.mp hx with rfl | hx
    · exact (le_max_left x b).trans hmax
    · rcases List.mem_cons.mp hx with rfl | hx
      · exact (le_max_right a x).trans hmax
      · exact ih (max a b) (List.mem_cons_of_mem _ hx)

/-! ## A row -/

/-- One node stands to the left of another, no less than a gap away. -/
def Beside (gap : ℚ) (a b : Node ℚ) : Prop :=
  a.x + a.width + gap ≤ b.x

/-- One node stands above another, no less than a gap away. -/
def Above (gap : ℚ) (a b : Node ℚ) : Prop :=
  a.y + a.height + gap ≤ b.y

/-- Nodes reach from one place from the left to another. -/
structure Spans (nodes : Set (Node ℚ)) (left right : ℚ) : Prop where
  left_le : ∀ n ∈ nodes, left ≤ n.x
  le_right : ∀ n ∈ nodes, n.x + n.width ≤ right
  starts : ∃ n ∈ nodes, n.x = left
  ends : ∃ n ∈ nodes, n.x + n.width = right

/-- The node of a place. -/
def nodeOf (size : String → Size ℚ) (place : String × ℚ × ℚ) : Node ℚ :=
  { id := place.1, x := place.2.1, y := place.2.2
    width := (size place.1).width, height := (size place.1).height }

section Row

variable {p : Spacing ℚ} {size : String → Size ℚ}

theorem rowWidth_singleton (n : String) : rowWidth p size [n] = (size n).width := by
  have hwidth : rowWidth p size [n] = (0 + (size n).width) + ((0 : ℕ) : ℚ) * p.node := rfl
  rw [hwidth]
  simp

theorem rowWidth_cons_cons (n m : String) (row : List String) :
    rowWidth p size (n :: m :: row) =
      (size n).width + p.node + rowWidth p size (m :: row) := by
  have hwidth : ∀ l, rowWidth p size l =
      total (l.map (fun n => (size n).width)) + ((l.length - 1 : ℕ) : ℚ) * p.node := fun _ => rfl
  rw [hwidth, hwidth, List.map_cons, total_cons]
  simp only [List.length_cons, Nat.add_sub_cancel, Nat.cast_add, Nat.cast_one]
  ring

/-- The nodes of a row that starts at a place. -/
def rowNodes (p : Spacing ℚ) (size : String → Size ℚ) (y x : ℚ) (row : List String) :
    List (Node ℚ) :=
  (placeRow p size y x row).map (nodeOf size)

theorem rowNodes_cons (y x : ℚ) (n : String) (row : List String) :
    rowNodes p size y x (n :: row) =
      nodeOf size (n, x, y) :: rowNodes p size y (x + ((size n).width + p.node)) row :=
  rfl

/-- What is seen from a node of a row itself. -/
theorem of_mem_rowNodes {y x : ℚ} {row : List String} {a : Node ℚ}
    (ha : a ∈ rowNodes p size y x row) :
    a.id ∈ row ∧ a.y = y ∧ a.width = (size a.id).width ∧ a.height = (size a.id).height := by
  induction row generalizing x with
  | nil => exact absurd ha List.not_mem_nil
  | cons n row ih =>
    rw [rowNodes_cons] at ha
    rcases List.mem_cons.mp ha with rfl | ha
    · exact ⟨List.mem_cons_self, rfl, rfl, rfl⟩
    · obtain ⟨hid, hrest⟩ := ih ha
      exact ⟨List.mem_cons_of_mem n hid, hrest⟩

/-- A row reaches as far as it is wide. -/
theorem spans_rowNodes (hnode : 0 ≤ p.node) (y : ℚ) {row : List String} (hne : row ≠ [])
    (hwidth : ∀ n ∈ row, 0 ≤ (size n).width) (x : ℚ) :
    Spans {a | a ∈ rowNodes p size y x row} x (x + rowWidth p size row) := by
  obtain ⟨n, row, rfl⟩ := List.exists_cons_of_ne_nil hne
  clear hne
  induction row generalizing n x with
  | nil =>
    rw [rowWidth_singleton]
    constructor <;> simp [rowNodes, placeRow, nodeOf]
  | cons m row ih =>
    have hn : 0 ≤ (size n).width := hwidth n List.mem_cons_self
    have hrest := ih (x + ((size n).width + p.node)) m
      fun k hk => hwidth k (List.mem_cons_of_mem n hk)
    have hend : x + rowWidth p size (n :: m :: row) =
        x + ((size n).width + p.node) + rowWidth p size (m :: row) := by
      rw [rowWidth_cons_cons]
      ring
    rw [hend, rowNodes_cons]
    constructor
    · intro a ha
      rcases List.mem_cons.mp ha with rfl | ha
      · exact le_refl x
      · have hle := hrest.left_le a ha
        linarith
    · intro a ha
      rcases List.mem_cons.mp ha with rfl | ha
      · obtain ⟨b, hb, hstart⟩ := hrest.starts
        have hle := hrest.le_right b hb
        obtain ⟨hid, -, hbw, -⟩ := of_mem_rowNodes hb
        have hb0 : 0 ≤ (size b.id).width := hwidth b.id (List.mem_cons_of_mem n hid)
        show x + (size n).width ≤ _
        linarith
      · exact hrest.le_right a ha
    · exact ⟨_, List.mem_cons_self, rfl⟩
    · obtain ⟨b, hb, hb'⟩ := hrest.ends
      exact ⟨b, List.mem_cons_of_mem _ hb, hb'⟩

/-- The nodes of a row stand beside each other in their order. -/
theorem pairwise_rowNodes (hnode : 0 ≤ p.node) (y : ℚ) {row : List String}
    (hwidth : ∀ n ∈ row, 0 ≤ (size n).width) (x : ℚ) :
    (rowNodes p size y x row).Pairwise (Beside p.node) := by
  induction row generalizing x with
  | nil => exact List.Pairwise.nil
  | cons n row ih =>
    rw [rowNodes_cons]
    have hrow : ∀ k ∈ row, 0 ≤ (size k).width := fun k hk => hwidth k (List.mem_cons_of_mem n hk)
    refine List.Pairwise.cons ?_ (ih hrow _)
    intro a ha
    have hne : row ≠ [] := List.ne_nil_of_mem (of_mem_rowNodes ha).1
    have hle := (spans_rowNodes hnode y hne hrow (x + ((size n).width + p.node))).left_le a ha
    show x + (size n).width + p.node ≤ a.x
    linarith

/-- Nodes that stand beside each other in one line. -/
structure Lined (p : Spacing ℚ) (y left right : ℚ) (nodes : List (Node ℚ)) : Prop where
  level : ∀ a ∈ nodes, a.y = y
  beside : nodes.Pairwise (Beside p.node)
  spans : Spans {a | a ∈ nodes} left right

theorem lined_rowNodes (hnode : 0 ≤ p.node) (y : ℚ) {row : List String} (hne : row ≠ [])
    (hwidth : ∀ n ∈ row, 0 ≤ (size n).width) (x : ℚ) :
    Lined p y x (x + rowWidth p size row) (rowNodes p size y x row) where
  level := fun _ ha => (of_mem_rowNodes ha).2.1
  beside := pairwise_rowNodes hnode y hwidth x
  spans := spans_rowNodes hnode y hne hwidth x

end Row

/-! ## Rows below each other -/

/-- Nodes that stand in rows: those of one row in a line, deeper rows below, and every row in the
middle of a width. -/
structure Stacked (p : Spacing ℚ) (size : String → Size ℚ) (widest : ℚ) (rows : List (List String))
    (nodes : List (Node ℚ)) : Prop where
  level : ∀ a ∈ nodes, ∀ b ∈ nodes, layerOf rows a.id = layerOf rows b.id → a.y = b.y
  beside : ∀ a ∈ nodes, ∀ b ∈ nodes, layerOf rows a.id = layerOf rows b.id → a.id ≠ b.id →
    Beside p.node a b ∨ Beside p.node b a
  above : ∀ a ∈ nodes, ∀ b ∈ nodes, layerOf rows a.id < layerOf rows b.id → Above p.layer a b
  centred : ∀ a ∈ nodes, ∃ row ∈ rows, a.id ∈ row ∧
    Spans {b | b ∈ nodes ∧ layerOf rows b.id = layerOf rows a.id}
      ((widest - rowWidth p size row) / 2) ((widest + rowWidth p size row) / 2)

/-- A line of nodes above nodes that are stacked already. -/
theorem Stacked.cons {p : Spacing ℚ} {size : String → Size ℚ} {widest y : ℚ} {row : List String}
    {rows : List (List String)} {line rest : List (Node ℚ)}
    (hrest : Stacked p size widest rows rest)
    (hline : Lined p y ((widest - rowWidth p size row) / 2)
      ((widest + rowWidth p size row) / 2) line)
    (habove : ∀ a ∈ line, ∀ b ∈ rest, Above p.layer a b) (hin : ∀ a ∈ line, a.id ∈ row)
    (hout : ∀ a ∈ rest, a.id ∉ row) :
    Stacked p size widest (row :: rows) (line ++ rest) := by
  have hlayer : ∀ a ∈ line ++ rest, a ∈ line ∧ layerOf (row :: rows) a.id = 0 ∨
      a ∈ rest ∧ layerOf (row :: rows) a.id = layerOf rows a.id + 1 := by
    intro a ha
    rcases List.mem_append.mp ha with ha | ha
    · exact Or.inl ⟨ha, by rw [layerOf_cons, if_pos (hin a ha)]⟩
    · exact Or.inr ⟨ha, by rw [layerOf_cons, if_neg (hout a ha)]⟩
  have hsame : ∀ a ∈ line ++ rest, ∀ b ∈ line ++ rest,
      layerOf (row :: rows) a.id = layerOf (row :: rows) b.id → a ∈ line ∧ b ∈ line ∨
        a ∈ rest ∧ b ∈ rest ∧ layerOf rows a.id = layerOf rows b.id := by
    intro a ha b hb hab
    rcases hlayer a ha with ⟨ha, hla⟩ | ⟨ha, hla⟩ <;> rcases hlayer b hb with ⟨hb, hlb⟩ | ⟨hb, hlb⟩
    · exact Or.inl ⟨ha, hb⟩
    · omega
    · omega
    · exact Or.inr ⟨ha, hb, by omega⟩
  constructor
  · intro a ha b hb hab
    rcases hsame a ha b hb hab with ⟨ha, hb⟩ | ⟨ha, hb, hab⟩
    · rw [hline.level a ha, hline.level b hb]
    · exact hrest.level a ha b hb hab
  · intro a ha b hb hab hne
    rcases hsame a ha b hb hab with ⟨ha, hb⟩ | ⟨ha, hb, hab⟩
    · have hpairs : line.Pairwise (fun a b => Beside p.node a b ∨ Beside p.node b a) :=
        hline.beside.imp Or.inl
      have hsymm : Std.Symm (fun a b => Beside p.node a b ∨ Beside p.node b a) :=
        ⟨fun _ _ h => h.symm⟩
      exact hpairs.forall ha hb fun heq => hne (heq ▸ rfl)
    · exact hrest.beside a ha b hb hab hne
  · intro a ha b hb hab
    rcases hlayer a ha with ⟨ha, hla⟩ | ⟨ha, hla⟩ <;> rcases hlayer b hb with ⟨hb, hlb⟩ | ⟨hb, hlb⟩
    · omega
    · exact habove a ha b hb
    · omega
    · exact hrest.above a ha b hb (by omega)
  · intro a ha
    rcases hlayer a ha with ⟨hline', -⟩ | ⟨hrest', -⟩
    · have hset : {b | b ∈ line ++ rest ∧ layerOf (row :: rows) b.id = layerOf (row :: rows) a.id} =
          {b | b ∈ line} := by
        ext b
        constructor
        · rintro ⟨hb, hab⟩
          rcases hsame b hb a ha hab with ⟨hb, -⟩ | ⟨-, ha', -⟩
          · exact hb
          · exact absurd (hin a hline') (hout a ha')
        · intro hb
          refine ⟨List.mem_append_left _ hb, ?_⟩
          rw [layerOf_cons, layerOf_cons, if_pos (hin b hb), if_pos (hin a hline')]
      rw [hset]
      exact ⟨row, List.mem_cons_self, hin a hline', hline.spans⟩
    · have hset : {b | b ∈ line ++ rest ∧ layerOf (row :: rows) b.id = layerOf (row :: rows) a.id} =
          {b | b ∈ rest ∧ layerOf rows b.id = layerOf rows a.id} := by
        ext b
        constructor
        · rintro ⟨hb, hab⟩
          rcases hsame b hb a ha hab with ⟨-, ha'⟩ | ⟨hb, -, hab⟩
          · exact absurd (hin a ha') (hout a hrest')
          · exact ⟨hb, hab⟩
        · rintro ⟨hb, hab⟩
          refine ⟨List.mem_append_right _ hb, ?_⟩
          rw [layerOf_cons, layerOf_cons, if_neg (hout b hb), if_neg (hout a hrest'), hab]
      obtain ⟨row', hrow', hmem, hspans⟩ := hrest.centred a hrest'
      rw [hset]
      exact ⟨row', List.mem_cons_of_mem row hrow', hmem, hspans⟩

section Rows

variable {p : Spacing ℚ} {size : String → Size ℚ} {widest : ℚ}

/-- The nodes of rows that start at a place from the top. -/
def rowsNodes (p : Spacing ℚ) (size : String → Size ℚ) (widest y : ℚ) (rows : List (List String)) :
    List (Node ℚ) :=
  (placeRows p size widest y rows).map (nodeOf size)

theorem rowsNodes_cons (y : ℚ) (row : List String) (rows : List (List String)) :
    rowsNodes p size widest y (row :: rows) =
      rowNodes p size y ((widest - rowWidth p size row) / 2) row ++
        rowsNodes p size widest
          (y + (greatest (row.map (fun n => (size n).height)) + p.layer)) rows :=
  List.map_append

theorem map_id_rowsNodes (y : ℚ) (rows : List (List String)) :
    (rowsNodes p size widest y rows).map (·.id) = rows.flatten := by
  have hrow : ∀ (y x : ℚ) (row : List String),
      (rowNodes p size y x row).map (·.id) = row := by
    intro y x row
    induction row generalizing x with
    | nil => rfl
    | cons n row ih => rw [rowNodes_cons, List.map_cons, ih]; rfl
  induction rows generalizing y with
  | nil => rfl
  | cons row rows ih => rw [rowsNodes_cons, List.map_append, hrow, ih, List.flatten_cons]

/-- Rows that can be placed: they share no node, none is empty, and no size is negative. -/
structure Placeable (size : String → Size ℚ) (rows : List (List String)) : Prop where
  nodup : rows.flatten.Nodup
  ne_nil : ∀ row ∈ rows, row ≠ []
  width_nonneg : ∀ n ∈ rows.flatten, 0 ≤ (size n).width
  height_nonneg : ∀ n ∈ rows.flatten, 0 ≤ (size n).height

theorem Placeable.tail {row : List String} {rows : List (List String)}
    (h : Placeable size (row :: rows)) : Placeable size rows where
  nodup := (List.nodup_append.mp h.nodup).2.1
  ne_nil := fun r hr => h.ne_nil r (List.mem_cons_of_mem row hr)
  width_nonneg := fun n hn => h.width_nonneg n (List.mem_append_right row hn)
  height_nonneg := fun n hn => h.height_nonneg n (List.mem_append_right row hn)

/-- A node stands in one row only. -/
theorem Placeable.row_unique {rows : List (List String)} (h : Placeable size rows)
    {row row' : List String} (hrow : row ∈ rows) (hrow' : row' ∈ rows) {n : String} (hn : n ∈ row)
    (hn' : n ∈ row') : row = row' := by
  by_contra hne
  have hsymm : Std.Symm (@List.Disjoint String) := ⟨fun _ _ hd => hd.symm⟩
  exact (List.nodup_flatten.mp h.nodup).2.forall hrow hrow' hne hn hn'

theorem id_mem_of_mem_rowsNodes {y : ℚ} {rows : List (List String)} {a : Node ℚ}
    (ha : a ∈ rowsNodes p size widest y rows) : a.id ∈ rows.flatten := by
  rw [← map_id_rowsNodes (p := p) y rows]
  exact List.mem_map_of_mem ha

theorem le_y_of_mem_rowsNodes (hlayer : 0 ≤ p.layer) {y : ℚ} {rows : List (List String)}
    (h : Placeable size rows) {a : Node ℚ} (ha : a ∈ rowsNodes p size widest y rows) :
    y ≤ a.y := by
  induction rows generalizing y with
  | nil => exact absurd ha List.not_mem_nil
  | cons row rows ih =>
    rw [rowsNodes_cons] at ha
    rcases List.mem_append.mp ha with ha | ha
    · exact (of_mem_rowNodes ha).2.1.ge
    · have hle := ih h.tail ha
      have hheights : row.map (fun n => (size n).height) ≠ [] := by
        simpa using h.ne_nil row List.mem_cons_self
      obtain ⟨n, hn, heq⟩ := List.mem_map.mp (greatest_mem hheights)
      have hpos := h.height_nonneg n (List.mem_append_left _ hn)
      linarith

/-- Placed rows are stacked. -/
theorem stacked_rowsNodes (hnode : 0 ≤ p.node) (hlayer : 0 ≤ p.layer) {rows : List (List String)}
    (h : Placeable size rows) (y : ℚ) :
    Stacked p size widest rows (rowsNodes p size widest y rows) := by
  induction rows generalizing y with
  | nil => constructor <;> exact fun a ha => absurd ha List.not_mem_nil
  | cons row rows ih =>
    have hline := lined_rowNodes hnode y (h.ne_nil row List.mem_cons_self)
      (fun n hn => h.width_nonneg n (List.mem_append_left _ hn))
      ((widest - rowWidth p size row) / 2)
    have hend : (widest - rowWidth p size row) / 2 + rowWidth p size row =
        (widest + rowWidth p size row) / 2 := by ring
    rw [hend] at hline
    rw [rowsNodes_cons]
    refine (ih h.tail _).cons hline ?_ (fun a ha => (of_mem_rowNodes ha).1) ?_
    · intro a ha b hb
      obtain ⟨hid, hy, -, hheight⟩ := of_mem_rowNodes ha
      have hle := le_y_of_mem_rowsNodes hlayer h.tail hb
      have hgreatest := le_greatest (List.mem_map_of_mem (f := fun n => (size n).height) hid)
      show a.y + a.height + p.layer ≤ b.y
      linarith
    · intro a ha hmem
      exact (List.nodup_append.mp h.nodup).2.2 a.id hmem a.id (id_mem_of_mem_rowsNodes ha) rfl

end Rows

/-! ## All rows -/

section Place

variable {p : Spacing ℚ} {size : String → Size ℚ} {rows : List (List String)}

/-- The width of the widest row. -/
def widest (p : Spacing ℚ) (size : String → Size ℚ) (rows : List (List String)) : ℚ :=
  greatest (rows.map (rowWidth p size))

/-- The nodes of all rows. -/
def placedNodes (p : Spacing ℚ) (size : String → Size ℚ) (rows : List (List String)) :
    List (Node ℚ) :=
  (place p size rows).map (nodeOf size)

theorem map_id_placedNodes (p : Spacing ℚ) (size : String → Size ℚ) (rows : List (List String)) :
    (placedNodes p size rows).map (·.id) = rows.flatten :=
  map_id_rowsNodes 0 rows

theorem of_mem_placedNodes {a : Node ℚ} (ha : a ∈ placedNodes p size rows) :
    a.id ∈ rows.flatten ∧ a.width = (size a.id).width ∧ a.height = (size a.id).height := by
  refine ⟨id_mem_of_mem_rowsNodes ha, ?_⟩
  obtain ⟨place, -, rfl⟩ := List.mem_map.mp ha
  exact ⟨rfl, rfl⟩

theorem stacked_placedNodes (hnode : 0 ≤ p.node) (hlayer : 0 ≤ p.layer) (h : Placeable size rows) :
    Stacked p size (widest p size rows) rows (placedNodes p size rows) :=
  stacked_rowsNodes hnode hlayer h 0

theorem rowWidth_le_widest {row : List String} (hrow : row ∈ rows) :
    rowWidth p size row ≤ widest p size rows :=
  le_greatest (List.mem_map_of_mem hrow)

/-- One row is as wide as the widest, and it starts at the left end. -/
theorem exists_spans_widest (hnode : 0 ≤ p.node) (hlayer : 0 ≤ p.layer) (h : Placeable size rows)
    (hne : rows ≠ []) : ∃ a ∈ placedNodes p size rows,
      Spans {b | b ∈ placedNodes p size rows ∧ layerOf rows b.id = layerOf rows a.id} 0
        (widest p size rows) := by
  have hwidths : rows.map (rowWidth p size) ≠ [] := by simpa using hne
  obtain ⟨row, hrow, hwide⟩ := List.mem_map.mp (greatest_mem hwidths)
  obtain ⟨n, hn⟩ := List.exists_mem_of_ne_nil row (h.ne_nil row hrow)
  have hmem : n ∈ (placedNodes p size rows).map (·.id) := by
    rw [map_id_placedNodes]
    exact List.mem_flatten_of_mem hrow hn
  obtain ⟨a, ha, rfl⟩ := List.mem_map.mp hmem
  obtain ⟨row', hrow', hn', hspans⟩ := (stacked_placedNodes hnode hlayer h).centred a ha
  obtain rfl := h.row_unique hrow hrow' hn hn'
  refine ⟨a, ha, ?_⟩
  have hwidth : rowWidth p size row = widest p size rows := hwide
  have hleft : (widest p size rows - rowWidth p size row) / 2 = 0 := by rw [hwidth]; ring
  have hright : (widest p size rows + rowWidth p size row) / 2 = widest p size rows := by
    rw [hwidth]; ring
  rwa [hleft, hright] at hspans

end Place

end Formwork.Layered
