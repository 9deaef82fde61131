import Formwork.Classes
import Formwork.Decimal.Double
import Formwork.Error

/-!
Layered placement of a directed graph, in four phases. Edges that close a cycle are turned round;
every node goes to the layer of its longest path from a source; the nodes of each layer are put in
an order with fewer crossings; and the layers are placed below each other, each centred on the
widest. The phases that compute places work over any kind of coordinate.
-/
namespace Formwork.Layered

/-- Numbers that can be coordinates. -/
class Coordinate (κ : Type) where
  zero : κ
  /-- The sum of two numbers. -/
  add : κ → κ → κ
  /-- The difference of two numbers. -/
  sub : κ → κ → κ
  half : κ → κ
  scale : Nat → κ → κ
  /-- Whether one number is less than another. -/
  less : κ → κ → Bool

instance : Coordinate Double where
  zero := .zero
  add := Double.add
  sub := Double.sub
  half := Double.half
  scale := Double.scale
  less := Double.lt

abbrev Edge := String × String

/-- The nodes to which the edges of a node lead, loops left out. -/
def successors (edges : List Edge) (node : String) : List String :=
  (edges.filter (fun (s, t) => s == node && t != node)).map (·.2)

/-- How far a search has come: the nodes it is done with, and the edges that lead back. -/
structure Search where
  done : List String := []
  /-- The edges that lead back to a node on the path. -/
  back : List Edge := []
  deriving Repr

/-- Search from a node in depth. `path` are the nodes from the root to the node; an edge to one of
them leads back. -/
def visit (edges : List Edge) : Nat → List String → String → Search → Search
  | 0, _, _, s => s
  | fuel + 1, path, node, s =>
    let s := (successors edges node).foldl (fun s child =>
      if child == node || path.contains child then { s with back := (node, child) :: s.back }
      else if s.done.contains child then s
      else visit edges fuel (node :: path) child s) s
    { s with done := node :: s.done }

/-- The edges that lead back in a search from every node that is not done. -/
def backEdges (nodes : List String) (edges : List Edge) : List Edge :=
  (nodes.foldl (fun s root =>
    if s.done.contains root then s else visit edges nodes.length [] root s) ({} : Search)).back

/-- The edges without loops, those that lead back turned round. -/
def acyclicEdges (nodes : List String) (edges : List Edge) : List Edge :=
  let back := backEdges nodes edges
  (edges.filter (fun (s, t) => s != t)).map (fun (s, t) =>
    if back.contains (s, t) then (t, s) else (s, t))

/-- Whether an edge leads to a node from one that remains. -/
def isHeld (edges : List Edge) (remaining : List String) (node : String) : Bool :=
  edges.any (fun (s, t) => t == node && remaining.contains s)

/-- The nodes to which an edge leads from a node that remains. -/
def held (edges : List Edge) (remaining : List String) : List String :=
  remaining.filter (isHeld edges remaining)

/-- The nodes to which no edge leads from a node that remains. -/
def free (edges : List Edge) (remaining : List String) : List String :=
  remaining.filter (fun n => !isHeld edges remaining n)

/-- Take the nodes to which no edge leads from the remaining ones, then again from the rest. What is
left at the end lies on a cycle or behind one. -/
def peel (edges : List Edge) (remaining : List String) : List (List String) × List String :=
  if _h : (held edges remaining).length < remaining.length then
    let (layers, stuck) := peel edges (held edges remaining)
    (free edges remaining :: layers, stuck)
  else ([], remaining)
termination_by remaining.length

/-- The layers of a graph without cycles. -/
def layers (nodes : List String) (edges : List Edge) : Except Error (List (List String)) :=
  let (layers, stuck) := peel edges nodes
  if stuck.isEmpty then .ok layers else .error (.cyclic stuck)

def layerOf (layers : List (List String)) (node : String) : Nat :=
  layers.findIdx (·.contains node)

/-- The mean position of the neighbours of a node as a sum and a count; the position of the node
itself when it has none. -/
def barycenter (fixed neighbours : List String) (position : Nat) : Nat × Nat :=
  let places := neighbours.filterMap (fun n => fixed.idxOf? n)
  if places.isEmpty then (position, 1) else (places.foldl (· + ·) 0, places.length)

/-- Order the nodes of a layer by the means of their neighbours in the layer beside it. -/
def arrange (neighbours : String → List String) (fixed row : List String) : List String :=
  let ranked := row.zipIdx.map (fun (n, p) => (n, barycenter fixed (neighbours n) p))
  (ranked.mergeSort (fun (_, (a, m)) (_, (b, n)) => decide (a * n ≤ b * m))).map (·.1)

/-- Order every layer but the first by the layer before it. -/
def sweep (neighbours : String → List String) : List (List String) → List (List String)
  | [] => []
  | fixed :: rest => fixed :: sweepFrom fixed rest
where
  /-- Order layers one after the other, the first of them by the layer `fixed`. -/
  sweepFrom (fixed : List String) : List (List String) → List (List String)
    | [] => []
    | row :: rest =>
      let row := arrange neighbours fixed row
      row :: sweepFrom row rest

/-- Sweep a number of times, downwards and upwards in turn. -/
def sweeps (edges : List Edge) : Bool → Nat → List (List String) → List (List String)
  | _, 0, rows => rows
  | downward, n + 1, rows =>
    let above (node : String) : List String := (edges.filter (·.2 == node)).map (·.1)
    let below (node : String) : List String := (edges.filter (·.1 == node)).map (·.2)
    let rows :=
      if downward then sweep above rows else (sweep below rows.reverse).reverse
    sweeps edges (!downward) n rows

/-- The layers in the order in which their nodes are placed. -/
def orderLayers (edges : List Edge) (count : Int) (layers : List (List String)) :
    List (List String) :=
  sweeps edges true count.toNat layers

variable {κ : Type} [Coordinate κ]

def total (xs : List κ) : κ :=
  xs.foldl Coordinate.add Coordinate.zero

/-- The greatest of numbers, nothing when there are none. -/
def greatest : List κ → κ
  | [] => Coordinate.zero
  | x :: xs => xs.foldl (fun a b => if Coordinate.less a b then b else a) x

structure Size (κ : Type) where
  width : κ
  height : κ
  deriving Repr

/-- The distances between nodes. -/
structure Spacing (κ : Type) where
  /-- Between neighbours in a layer. -/
  node : κ
  layer : κ
  deriving Repr

def rowWidth (p : Spacing κ) (size : String → Size κ) (row : List String) : κ :=
  Coordinate.add (total (row.map (fun n => (size n).width)))
    (Coordinate.scale (row.length - 1) p.node)

/-- The places of the nodes of a layer from the left. -/
def placeRow (p : Spacing κ) (size : String → Size κ) (y : κ) :
    κ → List String → List (String × κ × κ)
  | _, [] => []
  | x, n :: rest =>
    (n, x, y) ::
      placeRow p size y (Coordinate.add x (Coordinate.add (size n).width p.node)) rest

/-- The places of the nodes of layers from the top. -/
def placeRows (p : Spacing κ) (size : String → Size κ) (widest : κ) :
    κ → List (List String) → List (String × κ × κ)
  | _, [] => []
  | y, row :: rest =>
    let x := Coordinate.half (Coordinate.sub widest (rowWidth p size row))
    let height := greatest (row.map (fun n => (size n).height))
    placeRow p size y x row ++
      placeRows p size widest (Coordinate.add y (Coordinate.add height p.layer)) rest

/-- The places of all nodes: the upper left corner of each. -/
def place (p : Spacing κ) (size : String → Size κ) (rows : List (List String)) :
    List (String × κ × κ) :=
  placeRows p size (greatest (rows.map (rowWidth p size))) Coordinate.zero rows

/-- Lay out a graph: the places of its nodes. -/
def layout (p : Spacing κ) (count : Int) (nodes : List String) (size : String → Size κ)
    (edges : List Edge) : Except Error (List (String × κ × κ)) := do
  let dag := acyclicEdges nodes edges
  let layers ← layers nodes dag
  .ok (place p size (orderLayers dag count layers))

/-- Refuse edges that end at no node. -/
def requireNodes (nodes : List String) (edges : List Edge) : Except Error Unit :=
  match edges.find? (fun (s, t) => !(nodes.contains s && nodes.contains t)) with
  | some (s, t) => .error (.unknownNode (if nodes.contains s then t else s))
  | none => .ok ()

end Formwork.Layered
