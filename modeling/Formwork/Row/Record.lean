import Formwork.Classes
import Formwork.Value.Coerce

/-!
Records read from mappings. The keys of a mapping name attributes either in snake case or in camel
case; several keys may name one attribute, and then the last of them counts.
-/
namespace Formwork.Record

/-- Small letters, an underscore before every capital but the first character. -/
def underscored : List Char → String
  | [] => ""
  | c :: rest =>
    let marked := rest.flatMap (fun d => if 'A' ≤ d ∧ d ≤ 'Z' then ['_', d] else [d])
    Text.lower (String.ofList (c :: marked))

/-- The attribute that a key names. -/
def snakeKey (key : String) : String :=
  if key.toList.contains '_' then key else underscored key.toList

/-- The attributes that the keys of a mapping name, with their values. -/
def named (entries : List (Value × Value)) : Except Error (List (String × Value)) :=
  entries.mapM (fun (key, value) => match key with
    | .text k => .ok (snakeKey k, value)
    | other => .error (.wrongKind ("argument of type '" ++ other.kindName ++ "' is not iterable")))

/-- The attributes of a mapping that have a value; what counts as false has none. -/
def given (v : Value) : Except Error (List (String × Value)) :=
  if !v.truthy then .ok []
  else match v with
    | .map entries => do
      let pairs ← named entries
      .ok (pairs.filter (fun (_, value) => value != .null))
    | _ => .error .notRecord

/-- The last value given for an attribute, or a text. -/
def text (pairs : List (String × Value)) (name default : String) : Value :=
  (lastValue? name pairs).getD (.text default)

end Formwork.Record
