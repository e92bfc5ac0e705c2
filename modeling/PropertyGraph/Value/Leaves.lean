import PropertyGraph.Value.Basic

/-!
# The leaves of a value

A value is a tree of lists.  Its leaves are the values in it that are no lists, from left to right.

* `leaves_list`, `leaves_leaf` — the leaves of a list, and of any other value;
* `tree_induction` — what holds of leaves, and of lists of values that it holds of, holds of all
  values.
-/

namespace PropertyGraph

namespace Value

mutual

/-- The values in a value that are no lists, from left to right. -/
def leaves : Value → List Value
  | .list vs => leavesOfEach vs
  | leaf => [leaf]

/-- The leaves of several values. -/
def leavesOfEach : List Value → List Value
  | [] => []
  | v :: vs => leaves v ++ leavesOfEach vs

end

theorem leaves_list (vs : List Value) : leaves (.list vs) = vs.flatMap leaves := by
  rw [leaves]
  induction vs with
  | nil => rfl
  | cons v vs ih => rw [leavesOfEach, ih, List.flatMap_cons]

theorem leaves_leaf {v : Value} (h : ∀ vs, v ≠ .list vs) : leaves v = [v] := by
  cases v with
  | list vs => exact absurd rfl (h vs)
  | _ => rfl

theorem tree_induction {motive : Value → Prop}
    (list : ∀ vs, (∀ v ∈ vs, motive v) → motive (.list vs))
    (leaf : ∀ v, (∀ vs, v ≠ .list vs) → motive v) : ∀ v, motive v
  | .list vs => list vs fun v _ => tree_induction list leaf v
  | .null => leaf _ nofun
  | .bool _ => leaf _ nofun
  | .int _ => leaf _ nofun
  | .float _ => leaf _ nofun
  | .string _ => leaf _ nofun
  | .bytes _ => leaf _ nofun
  | .date _ => leaf _ nofun
  | .dateTime _ => leaf _ nofun
  | .localDateTime _ => leaf _ nofun
  | .point _ _ _ => leaf _ nofun

end Value

end PropertyGraph
