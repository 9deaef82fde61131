import Formwork.Diagram.Basic
import Formwork.Diagram.Layered
import Formwork.Settings

/-!
Layouts of diagrams. The visible entities are placed by an engine that knows their sizes and the
edges between them; entities that it does not place stand at the origin. A node is as high as its
fields need.
-/
namespace Formwork.Diagram

open Layered (Coordinate Size Spacing Edge)

structure Node (κ : Type) where
  id : String
  x : κ
  y : κ
  width : κ
  height : κ
  deriving Repr

/-- A diagram whose entities are placed. -/
structure Layout (κ : Type) where
  nodes : List (Node κ)
  /-- The relationships between them. -/
  edges : List Relationship
  /-- The ids of relationships that end at no entity. -/
  skipped : List String
  deriving Repr

/-- The first node with an id. -/
def Layout.find? {κ : Type} (l : Layout κ) (id : String) : Option (Node κ) :=
  l.nodes.find? (·.id == id)

structure Measures (κ : Type) where
  width : κ
  minHeight : κ
  baseHeight : κ
  rowHeight : κ
  deriving Repr

variable {κ : Type} [Coordinate κ]

/-- The size of a node with a number of fields. -/
def Measures.size (m : Measures κ) (fields : Nat) : Size κ :=
  let height := Coordinate.add m.baseHeight (Coordinate.scale fields m.rowHeight)
  { width := m.width
    height := if Coordinate.less m.minHeight height then height else m.minHeight }

/-- What places nodes of known sizes: the place of every node that it can place. -/
abbrev Engine (κ : Type) :=
  List (String × Size κ) → List Edge → Except Error (List (String × κ × κ))

def sizeIn (sizes : List (String × Size κ)) (id : String) : Size κ :=
  (sizes.lookup id).getD ⟨Coordinate.zero, Coordinate.zero⟩

def layeredEngine (p : Spacing κ) (count : Int) : Engine κ :=
  fun sizes edges => Layered.layout p count (sizes.map (·.1)) (sizeIn sizes) edges

/-- The places that an engine gives, none when it cannot lay out the graph. -/
def placesOf (engine : Engine κ) (sizes : List (String × Size κ)) (edges : List Edge) :
    Except Error (List (String × κ × κ)) :=
  match engine sizes edges with
  | .error (.cyclic _) => .ok []
  | result => result

/-- The visible entities by id with the sizes of their nodes. Of entities that share an id, the last
gives the size. -/
def sizes (m : Measures κ) (d : Diagram) : List (String × Size κ) :=
  lastValues (d.visible.entities.map (fun e => (e.id, m.size e.fields.length)))

/-- Whether a relationship has a node at both ends. -/
def isJoined (sizes : List (String × Size κ)) (r : Relationship) : Bool :=
  sizes.any (·.1 == r.source) && sizes.any (·.1 == r.target)

/-- The visible relationships that have a node at both ends. -/
def joined (m : Measures κ) (d : Diagram) : List Relationship :=
  d.visible.relationships.filter (isJoined (sizes m d))

def Relationship.edge (r : Relationship) : Edge :=
  (r.source, r.target)

/-- The node of an entity among the places of nodes. -/
def nodeAt (places : List (String × κ × κ)) (id : String) (size : Size κ) : Node κ :=
  let (x, y) := (places.lookup id).getD (Coordinate.zero, Coordinate.zero)
  { id, x, y, width := size.width, height := size.height }

/-- The layout of the visible part of a diagram. -/
def layoutBy (engine : Engine κ) (m : Measures κ) (d : Diagram) : Except Error (Layout κ) := do
  let sizes := d.sizes m
  let places ← placesOf engine sizes ((d.joined m).map Relationship.edge)
  .ok {
    nodes := sizes.map (fun (id, size) => nodeAt places id size)
    edges := d.joined m
    skipped := (d.visible.relationships.filter (fun r => !isJoined sizes r)).map (·.id) }

/-- The number that a setting of the layout is. -/
def number (s : Settings) (key : String) : Except Error Double :=
  match s.setting "layout" key with
  | .int i => .ok (.ofInt i)
  | .bool b => .ok (.ofInt (if b then 1 else 0))
  | .double x => .ok x
  | v => .error (.wrongKind ("unsupported operand type: '" ++ v.kindName ++ "'"))

/-- The number that a setting of the layout is or spells. -/
def spelledNumber (s : Settings) (key : String) : Except Error Double :=
  match s.setting "layout" key with
  | .text t => match readDecimal? t with
    | some x => .ok x
    | none => .error (.notDecimal t)
  | _ => number s key

def Measures.read (s : Settings) : Except Error (Measures Double) := do
  let minHeight ← number s "min_node_height"
  let baseHeight ← number s "node_base_height"
  let rowHeight ← number s "field_row_height"
  let width ← spelledNumber s "node_width"
  .ok { width, minHeight, baseHeight, rowHeight }

def nodeSize (s : Settings) (fields : Nat) : Except Error (Size Double) := do
  .ok ((← Measures.read s).size fields)

/-- The layout by an engine, the sizes of nodes by the settings. -/
def layoutWith (s : Settings) (engine : Engine Double) (d : Diagram) :
    Except Error (Layout Double) := do
  if d.visible.entities.isEmpty then .ok { nodes := [], edges := [], skipped := [] }
  else layoutBy engine (← Measures.read s) d

/-- The layout in layers by the settings. Numbers are only read for nodes that need them. -/
def layout (s : Settings) (d : Diagram) : Except Error (Layout Double) := do
  let count ← (s.setting "layout" "sweeps").integer
  if d.visible.entities.isEmpty then layoutWith s (fun _ _ => .ok []) d
  else do
    let m ← Measures.read s
    let spacing : Spacing Double :=
      { node := ← number s "node_spacing", layer := ← number s "layer_spacing" }
    layoutBy (layeredEngine spacing count) m d

end Formwork.Diagram
