/-!
Lists divided into classes. `distinct` keeps the first of equal entries, and `classes` divides a
list by a key: the keys stand in the order in which they first occur, and the members of a class
keep their order.
-/
namespace Formwork

variable {α κ : Type}

/-- The entries of a list, each once, in the order in which they first occur. -/
def distinct [BEq α] : List α → List α
  | [] => []
  | a :: rest => a :: (distinct rest).filter (fun b => !(b == a))

/-- The classes of a list under a key, by first occurrence. -/
def classes [BEq κ] (key : α → κ) (items : List α) : List (κ × List α) :=
  (distinct (items.map key)).map (fun k => (k, items.filter (fun a => key a == k)))

/-- The first entry for every key, in order. -/
def firsts [BEq κ] (key : α → κ) : List α → List α
  | [] => []
  | a :: rest => a :: (firsts key rest).filter (fun b => !(key b == key a))

/-- The last value that an association list holds for a key. -/
def lastValue? [BEq κ] (key : κ) (pairs : List (κ × α)) : Option α :=
  pairs.reverse.lookup key

/-- An association list without repeated keys: a key keeps its first place and takes its last
value. -/
def lastValues [BEq κ] (pairs : List (κ × α)) : List (κ × α) :=
  (distinct (pairs.map (·.1))).filterMap (fun k => (lastValue? k pairs).map (k, ·))

end Formwork
