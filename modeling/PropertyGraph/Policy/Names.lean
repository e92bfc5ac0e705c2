import PropertyGraph.Collection.OrderedSet
import PropertyGraph.Error

/-!
# Name sets

The filtering policies are given lists of names.  Order and repetitions do not matter, and no
name may be empty.

* `nameSet_eq_ok` — without an empty name the set has exactly the listed names;
* `nameSet_eq_error` — with an empty name there is an error for the kind of name;
* `map_nameSet` — what is made of the set is made, or there is that error;
* `isEmpty_ofList` — the set is empty iff nothing is listed.
-/

namespace PropertyGraph

/-- A set of names. -/
abbrev NameSet := OrderedSet String

/-- The set of the listed names, none of which may be empty. -/
def nameSet (what : NameKind) (names : List String) : Except Error NameSet :=
  if "" ∈ names then .error (.emptyName what) else .ok (.ofList names)

theorem nameSet_eq_ok {what : NameKind} {names : List String} (h : "" ∉ names) :
    nameSet what names = .ok (.ofList names) := if_neg h

theorem nameSet_eq_error {what : NameKind} {names : List String} (h : "" ∈ names) :
    nameSet what names = .error (.emptyName what) := if_pos h

theorem map_nameSet {α : Type} (f : NameSet → α) (what : NameKind) (names : List String) :
    (nameSet what names).map f =
      if "" ∈ names then .error (.emptyName what) else .ok (f (.ofList names)) := by
  by_cases h : "" ∈ names
  · rw [nameSet_eq_error h, if_pos h]
    rfl
  · rw [nameSet_eq_ok h, if_neg h]
    rfl

theorem isEmpty_ofList (names : List String) :
    (OrderedSet.ofList names).isEmpty = true ↔ names = [] := by
  rw [OrderedSet.isEmpty, List.isEmpty_iff, List.eq_nil_iff_forall_not_mem,
    List.eq_nil_iff_forall_not_mem]
  exact forall_congr' fun name => not_congr (OrderedSet.mem_ofList names name)

end PropertyGraph
