import Formwork.Markup.Element
import Formwork.Proofs.Classes

/-!
# Attributes of elements

An attribute that is given its text is written, unless the text is empty. `Element.values` are the
values that an attribute has in an element and below it, in document order.
-/
namespace Formwork

/-- The value of an attribute that is given a text: none if the text is empty. -/
def written (s : String) : Option String :=
  if s = "" then none else some s

theorem written_of_ne_empty {s : String} (h : s ≠ "") : written s = some s := if_neg h

section Given

variable {pairs : List (String × String)}

theorem lookup_eq_none_of_notMem {name : String} (h : name ∉ pairs.map (·.1)) :
    pairs.lookup name = none := by
  rw [List.lookup_eq_none_iff]
  intro p hp
  rw [bne_iff_ne]
  rintro rfl
  exact h (List.mem_map_of_mem hp)

theorem lookup_filter_of_nodup (h : (pairs.map (·.1)).Nodup) (name : String) :
    (pairs.filter (fun (_, value) => value != "")).lookup name =
      (pairs.lookup name).bind written := by
  induction pairs with
  | nil => rfl
  | cons p pairs ih =>
    obtain ⟨key, value⟩ := p
    rw [List.map_cons, List.nodup_cons] at h
    have ih := ih h.2
    by_cases hname : name = key
    · subst hname
      have hrest : pairs.lookup name = none := lookup_eq_none_of_notMem h.1
      rw [hrest] at ih
      by_cases hvalue : value = ""
      · simp [hvalue, written, ih]
      · simp [hvalue, written]
    · have hne : (name == key) = false := beq_eq_false_iff_ne.mpr hname
      by_cases hvalue : value = ""
      · simp [hvalue, List.lookup_cons, hne, ih]
      · simp [hvalue, List.lookup_cons, hne, ih]

/-- Among names that are given once each, an attribute has the text that it is given. -/
theorem lookup_givenAttributes (h : (pairs.map (·.1)).Nodup) (name : String) :
    (givenAttributes pairs).lookup name = (pairs.lookup name).bind written := by
  have hkept : ((pairs.filter (fun (_, value) => value != "")).map (·.1)).Nodup :=
    List.Nodup.sublist (List.filter_sublist.map _) h
  rw [givenAttributes, lastValues_of_nodup hkept, lookup_filter_of_nodup h]

end Given

namespace Element

theorem attribute?_given {pairs : List (String × String)} (h : (pairs.map (·.1)).Nodup)
    (tag name : String) (children : List Element) :
    (node tag (givenAttributes pairs) children).attribute? name =
      (pairs.lookup name).bind written :=
  lookup_givenAttributes h name

/-- The values that an attribute has in an element and below it, in document order. -/
def values (name : String) (e : Element) : List String :=
  e.all.filterMap (·.attribute? name)

theorem filterMap_allOf (name : String) (es : List Element) :
    (allOf es).filterMap (·.attribute? name) = es.flatMap (values name) := by
  induction es with
  | nil => rfl
  | cons e es ih => rw [allOf, List.filterMap_append, ih, List.flatMap_cons, values]

theorem values_node (name tag : String) (attributes : List (String × String))
    (children : List Element) :
    (node tag attributes children).values name =
      (attributes.lookup name).toList ++ children.flatMap (values name) := by
  rw [values, all, List.filterMap_cons, filterMap_allOf, attribute?, Element.attributes]
  cases attributes.lookup name <;> rfl

end Element

end Formwork
