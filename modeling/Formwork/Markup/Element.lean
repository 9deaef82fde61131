import Formwork.Classes

/-!
Trees of markup elements. An element has a tag, attributes in order and child elements; the
documents of this library hold no text between elements.
-/
namespace Formwork

inductive Element where
  | node (tag : String) (attributes : List (String × String)) (children : List Element)
  deriving Repr, Inhabited

namespace Element

def tag : Element → String
  | .node tag _ _ => tag

def attributes : Element → List (String × String)
  | .node _ attributes _ => attributes

def children : Element → List Element
  | .node _ _ children => children

def attribute? (e : Element) (name : String) : Option String :=
  e.attributes.lookup name

mutual

/-- An element and everything below it, in document order. -/
def all : Element → List Element
  | .node tag attributes children => .node tag attributes children :: allOf children

/-- Elements and everything below them, in document order. -/
def allOf : List Element → List Element
  | [] => []
  | e :: rest => all e ++ allOf rest

end

end Element

/-- Attributes without the empty ones; a repeated name keeps its first place and takes its last
value. -/
def givenAttributes (pairs : List (String × String)) : List (String × String) :=
  lastValues (pairs.filter (fun (_, value) => value != ""))

end Formwork
