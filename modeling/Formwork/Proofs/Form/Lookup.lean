import Mathlib.Data.List.TakeWhile
import Formwork.Proofs.Classes
import Formwork.Proofs.Form.Scan

/-!
# Looking attributes up

Attributes are read with their scopes, and of those with one scope and one local name only the first
is kept. A look-up goes by the local name alone. So what is found is the first attribute with the
local name among those that were printed: one that was left out has an earlier one with its name
before it. What the scopes are makes no difference.
-/
namespace Formwork.Form

open Text.Match

/-! ## Printed attributes -/

namespace Attribute

def localName (a : Attribute) : String :=
  String.ofList a.name.base.list

/-- Whether an attribute has a local name, the case of letters ignored. -/
def isNamed (name : String) (a : Attribute) : Bool :=
  Text.lower a.localName == Text.lower name

/-- The attribute with another scope, or with none. -/
def withScope (scope : Option (Run isAttributeChar)) (a : Attribute) : Attribute :=
  { a with name.scope := scope }

/-- What stands behind the last colon of the name is the local name. -/
theorem localName_pair (a : Attribute) : Form.localName a.pair.1 = a.localName := by
  have hbase : ∀ c ∈ a.name.base.list.reverse, (c != ':') = true := by
    intro c hc
    have htag := isTagChar_of_isAttributeChar (a.name.base.all c (List.mem_reverse.mp hc))
    exact bne_iff_ne.mpr (isTagChar_iff.mp htag).2.1
  rw [pair, Form.localName, String.toList_ofList, Name.text, List.reverse_append, localName]
  refine congrArg String.ofList ?_
  cases a.name.scope with
  | none =>
    rw [Option.elim_none, List.reverse_nil, List.append_nil, List.takeWhile_eq_self_iff.mpr hbase,
      List.reverse_reverse]
  | some scope =>
    rw [Option.elim_some, List.reverse_append, List.reverse_singleton, List.singleton_append,
      takeWhile_append hbase (by decide), List.reverse_reverse]

/-- Attributes in the order of a list, with the blanks before each but the first. -/
def listText : List Attribute → List Char
  | [] => []
  | a :: more => a.bare ++ more.flatMap text

theorem readings_listText (as : List Attribute) (tail : Blanks) :
    readings attribute? (listText as ++ tail.list) =
      as.map (fun a => (a.name.text, Text.escapedText a.value.toList)) := by
  cases as with
  | nil => exact readings_attributes [] tail
  | cons a more =>
    rw [listText, List.append_assoc, readings_bare, readings_attributes, List.map_cons]

/-- Printed attributes are read as the first of each name. -/
theorem readAttributes_listText (lead tail : Blanks) (as : List Attribute) :
    readAttributes (lead.list ++ listText as ++ tail.list) =
      .ok (firsts (·.1) (as.map Attribute.pair)) := by
  refine readAttributes_of_readings ?_
  rw [List.append_assoc, readings_blanks lead.all, readings_listText]

end Attribute

/-! ## Look-ups -/

/-- An attribute that is left out behind one of its name is never the first with a local name. -/
theorem find?_firsts_pair (as : List Attribute) (name : String) :
    Attributes.find? (firsts (·.1) (as.map Attribute.pair)) name =
      (as.find? (Attribute.isNamed name)).map (·.value) := by
  have hfirst := find?_firsts (fun p : String × String => p.1)
    (fun q => Text.lower (localName q) == Text.lower name) (as.map Attribute.pair)
  have hnamed : (fun p : String × String => Text.lower (localName p.1) == Text.lower name) ∘
      Attribute.pair = Attribute.isNamed name := by
    funext a
    rw [Function.comp_apply, Attribute.localName_pair]
    rfl
  rw [Attributes.find?, hfirst, List.find?_map, hnamed, Option.map_map]
  rfl

theorem text_second {a b : Attribute} {name : String} (ha : a.isNamed name = false)
    (hb : b.isNamed name = true) :
    Attributes.text (firsts (·.1) ([a, b].map Attribute.pair)) name = b.value := by
  rw [Attributes.text, find?_firsts_pair, List.find?_cons_of_neg (by simp [ha]),
    List.find?_cons_of_pos hb]
  rfl

/-- Scopes are of no account for the first attribute with a local name. -/
theorem map_find?_isNamed (as : List Attribute) (name : String) :
    ((as.map (Attribute.withScope none)).find? (Attribute.isNamed name)).map (·.value) =
      (as.find? (Attribute.isNamed name)).map (·.value) := by
  rw [List.find?_map, Option.map_map]
  rfl

/-- **A look-up takes the first attribute with the local name.** Printed attributes are read, and
among them a look-up finds the value of the first whose local name is the one that is asked for, the
case of letters ignored, and the default if there is none. Giving one of the attributes another
scope, or none, changes no look-up. -/
theorem readAttributes_finds_first (name : String) :
    (∀ (lead tail : Blanks) (as : List Attribute) (default : String),
      ∃ a, readAttributes (lead.list ++ Attribute.listText as ++ tail.list) = .ok a ∧
        (a.find? name).getD default =
          ((as.find? (Attribute.isNamed name)).map (·.value)).getD default) ∧
    ∀ (lead tail : Blanks) (before after : List Attribute) (a : Attribute)
      (scope : Option (Run isAttributeChar)),
      ∃ other given,
        readAttributes (lead.list ++ Attribute.listText (before ++ a.withScope scope :: after) ++
          tail.list) = .ok other ∧
        readAttributes (lead.list ++ Attribute.listText (before ++ a :: after) ++ tail.list) =
          .ok given ∧
        other.find? name = given.find? name := by
  refine ⟨fun lead tail as default => ?_, fun lead tail before after a scope => ?_⟩
  · refine ⟨_, Attribute.readAttributes_listText lead tail as, ?_⟩
    rw [find?_firsts_pair]
  · have hscopes : (before ++ a.withScope scope :: after).map (Attribute.withScope none) =
        (before ++ a :: after).map (Attribute.withScope none) := by
      simp [Attribute.withScope]
    refine ⟨_, _, Attribute.readAttributes_listText lead tail _,
      Attribute.readAttributes_listText lead tail _, ?_⟩
    rw [find?_firsts_pair, find?_firsts_pair, ← map_find?_isNamed, hscopes, map_find?_isNamed]

end Formwork.Form
