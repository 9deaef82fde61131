import Formwork.Row.Basic
import Formwork.Settings

/-!
Configured sub-tabs. Where sub-tabs are configured, rows may only name configured ones, and the
sub-tabs of a tab appear by their configured order.
-/
namespace Formwork

structure SubTabEntry where
  id : Value := .text ""
  /-- Its label, by which rows name it. -/
  label : Value := .text ""
  /-- Its place among the sub-tabs of the tab. -/
  order : Int := 0
  deriving Repr, BEq, Inhabited

def SubTabEntry.ofValue (v : Value) : Except Error SubTabEntry := do
  let given ← Record.given v
  .ok {
    id := Record.text given "id" ""
    label := Record.text given "label" ""
    order := ← ((lastValue? "order" given).getD (.int 0)).integerOr 0 }

def SubTabEntry.toPairs (e : SubTabEntry) : List (String × Value) :=
  [("id", e.id), ("label", e.label), ("order", .int e.order)]

/-- The configured sub-tabs of each tab. -/
abbrev SubTabEntries := List (String × List SubTabEntry)

namespace SubTabEntries

/-- The configured sub-tabs of a mapping. -/
def ofValue (v : Value) : Except Error SubTabEntries :=
  if !v.truthy then .ok []
  else match v with
    | .map entries => entries.mapM (fun (tab, content) => do
        let items ← if content.truthy then content.items else .ok []
        .ok (tab.toText, ← items.mapM SubTabEntry.ofValue))
    | _ => .error .notRecord

/-- The configured sub-tabs of a tab. -/
def of (c : SubTabEntries) (tab : String) : List SubTabEntry :=
  (c.lookup tab).getD []

/-- Whether a tab has a configured sub-tab of a name. -/
def has (c : SubTabEntries) (tab : String) (name : Value) : Bool :=
  (c.of tab).any (fun e => e.label == name)

/-- Where a sub-tab stands: the order and the position of the last entry with its label, or after
all orders below the number of labels when it has no entry. -/
def rank (entries : List SubTabEntry) (name : Value) : Int × Nat :=
  match entries.zipIdx.reverse.find? (fun (e, _) => e.label == name) with
  | some (e, i) => (e.order, i)
  | none =>
    let count := (distinct (entries.map (·.label))).length
    (count, count)

/-- Whether one rank comes no later than another. -/
def rankLe (a b : Int × Nat) : Bool :=
  a.1 < b.1 || (a.1 == b.1 && a.2 ≤ b.2)

/-- The names of sub-tabs by their ranks. -/
def arrange (entries : List SubTabEntry) (names : List Value) : List Value :=
  names.mergeSort (fun a b => rankLe (rank entries a) (rank entries b))

end SubTabEntries

end Formwork
