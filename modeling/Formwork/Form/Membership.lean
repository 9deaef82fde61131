import Formwork.Text.Part

/-!
Membership. An item belongs to a block whose name its own name begins with. Blocks that are named
with an index token also take the items of that token, and blocks of the first token take every item
that carries none of the other tokens.
-/
namespace Formwork.Form

def indexTokens : List String := ["B1", "B2", "B3"]

/-- Whether an item belongs to a block. -/
def belongs (tokens : List String) (block item : String) : Bool :=
  if block == "" || item == "" then false
  else if Text.beginsWith item block then true
  else match tokens with
    | [] => false
    | first :: others =>
      if Text.beginsWith block first then !(others.any (Text.beginsWith item))
      else others.any (fun t => Text.beginsWith block t && Text.beginsWith item t)

/-- Whether a block is named with an index token. -/
def usesToken (tokens : List String) (block : String) : Bool :=
  tokens.any (Text.beginsWith block)

end Formwork.Form
