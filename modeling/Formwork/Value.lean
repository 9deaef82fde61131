import Formwork.Decimal.Shortest

/-!
Values of data files: the common domain of JSON documents, YAML documents and table rows. Entries
of a mapping keep their order, and their keys may be any values. A value has a truth, which is
false for nothing, zero and what is empty, and a text.
-/
namespace Formwork

/-- A value read from a data file. -/
inductive Value where
  | null
  | bool (b : Bool)
  | int (i : Int)
  /-- A floating point number. -/
  | double (x : Double)
  | text (s : String)
  /-- A calendar date or a time, by its text. -/
  | date (s : String)
  | list (items : List Value)
  /-- A mapping, its entries in order. -/
  | map (entries : List (Value × Value))
  deriving Repr, Inhabited

namespace Value

mutual

/-- Whether two values are of the same kind and have the same content. -/
def same : Value → Value → Bool
  | .null, .null => true
  | .bool a, .bool b => a == b
  | .int i, .int j => i == j
  | .double x, .double y => x == y
  | .text s, .text t => s == t
  | .date s, .date t => s == t
  | .list vs, .list ws => sameItems vs ws
  | .map vs, .map ws => sameEntries vs ws
  | _, _ => false

/-- Whether two sequences have the same items. -/
def sameItems : List Value → List Value → Bool
  | [], [] => true
  | v :: vs, w :: ws => same v w && sameItems vs ws
  | _, _ => false

/-- Whether two mappings have the same entries in the same order. -/
def sameEntries : List (Value × Value) → List (Value × Value) → Bool
  | [], [] => true
  | (k, v) :: vs, (l, w) :: ws => same k l && same v w && sameEntries vs ws
  | _, _ => false

end

mutual

theorem same_iff : ∀ v w : Value, same v w = true ↔ v = w
  | .list vs, w => by
    cases w <;> simp [same, sameItems_iff vs]
  | .map vs, w => by
    cases w <;> simp [same, sameEntries_iff vs]
  | .null, w => by cases w <;> simp [same]
  | .bool _, w => by cases w <;> simp [same]
  | .int _, w => by cases w <;> simp [same]
  | .double _, w => by cases w <;> simp [same]
  | .text _, w => by cases w <;> simp [same]
  | .date _, w => by cases w <;> simp [same]

theorem sameItems_iff : ∀ vs ws : List Value, sameItems vs ws = true ↔ vs = ws
  | [], ws => by cases ws <;> simp [sameItems]
  | v :: vs, ws => by
    cases ws with
    | nil => simp [sameItems]
    | cons w ws => simp [sameItems, same_iff v, sameItems_iff vs]

theorem sameEntries_iff :
    ∀ vs ws : List (Value × Value), sameEntries vs ws = true ↔ vs = ws
  | [], ws => by cases ws <;> simp [sameEntries]
  | (k, v) :: vs, ws => by
    cases ws with
    | nil => simp [sameEntries]
    | cons w ws => simp [sameEntries, same_iff k, same_iff v, sameEntries_iff vs, Prod.ext_iff]

end

instance : DecidableEq Value := fun v w => decidable_of_iff _ (same_iff v w)

/-- Whether the value counts as true. -/
def truthy : Value → Bool
  | .null => false
  | .bool b => b
  | .int i => i != 0
  | .double x => !x.isZero
  | .text s => s != ""
  | .date _ => true
  | .list items => !items.isEmpty
  | .map entries => !entries.isEmpty

/-- The first of two values if it counts as true, else the second. -/
def orElse (a b : Value) : Value :=
  if a.truthy then a else b

/-- The value of a key that is a text. -/
def lookup? (key : String) : List (Value × Value) → Option Value
  | [] => none
  | (.text k, v) :: rest => if k == key then some v else lookup? key rest
  | _ :: rest => lookup? key rest

/-- The value of a key in a mapping; `none` also for values that are no mapping. -/
def get? (v : Value) (key : String) : Option Value :=
  match v with
  | .map entries => lookup? key entries
  | _ => none

/-- The value of a key, nothing when it is missing. -/
def get (v : Value) (key : String) : Value :=
  (v.get? key).getD .null

/-- Set a key: its place is kept where the mapping has it, else it comes last. -/
def put (key value : Value) : List (Value × Value) → List (Value × Value)
  | [] => [(key, value)]
  | (k, v) :: rest => if k == key then (k, value) :: rest else (k, v) :: put key value rest

/-- A mapping with the given texts as keys. -/
def ofPairs (pairs : List (String × Value)) : Value :=
  .map (pairs.map (fun (k, v) => (.text k, v)))

def texts (items : List String) : Value :=
  .list (items.map .text)

/-- The word for the kind of a value in messages. -/
def kindName : Value → String
  | .null => "NoneType"
  | .bool _ => "bool"
  | .int _ => "int"
  | .double _ => "float"
  | .text _ => "str"
  | .date s => if s.length ≤ 10 then "date" else "datetime"
  | .list _ => "list"
  | .map _ => "dict"

end Value

end Formwork
