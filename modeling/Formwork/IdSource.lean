/-!
Element ids. An id is the text of a base followed by the number of ids drawn so far, written with at
least three digits. Every pass that needs ids owns its source and passes it on as a state.
-/
namespace Formwork

structure IdSource where
  /-- The text at the start of every id. -/
  base : String
  /-- How many ids have been drawn. -/
  drawn : Nat := 0
  deriving Repr, DecidableEq

namespace IdSource

/-- The base of a source that is given none: a time in milliseconds. -/
def defaultBase : String := "1704067200000"

/-- A decimal number with at least the given number of digits. -/
def padded (width n : Nat) : String :=
  let digits := toString n
  String.ofList (List.replicate (width - digits.length) '0') ++ digits

def id (s : IdSource) (number : Nat) : String :=
  s.base ++ padded 3 number

def next (s : IdSource) : String × IdSource :=
  (s.id (s.drawn + 1), { s with drawn := s.drawn + 1 })

/-- Begin again with the first id. -/
def reset (s : IdSource) : IdSource :=
  { s with drawn := 0 }

end IdSource

/-- Computations that draw ids. -/
abbrev Numbered := StateM IdSource

def freshId : Numbered String :=
  fun s => s.next

end Formwork
