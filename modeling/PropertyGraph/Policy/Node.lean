import PropertyGraph.Element.Basic
import PropertyGraph.Policy.Names

/-!
# Policies on nodes

A policy decides which nodes are included.  Beside the fixed policies there is one that asks for
a label, the conjunction of any number of policies, and any other predicate.  A policy may stand
behind a shared pointer, which passes each question on.

* `includesEvery_eq_all` — a conjunction includes what all its members include.
-/

namespace PropertyGraph

/-- A decision about nodes. -/
inductive NodePolicy where
  | all
  | none
  /-- nodes with at least one of the labels; every node if there are no labels -/
  | labels (names : NameSet)
  /-- nodes that every member includes -/
  | allOf (members : List NodePolicy)
  /-- a policy behind a shared pointer -/
  | shared (policy : NodePolicy)
  /-- any other decision, under a name of its own -/
  | custom (name : String) (accepts : Node → Bool)

namespace NodePolicy

mutual

/-- Whether the policy includes a node. -/
def includes : NodePolicy → Node → Bool
  | .all, _ => true
  | .none, _ => false
  | .labels names, n => names.isEmpty || names.toList.any n.hasLabel
  | .allOf members, n => includesEvery members n
  | .shared policy, n => includes policy n
  | .custom _ accepts, n => accepts n

/-- Whether all the policies include a node. -/
def includesEvery : List NodePolicy → Node → Bool
  | [], _ => true
  | p :: ps, n => includes p n && includesEvery ps n

end

theorem includesEvery_eq_all (ps : List NodePolicy) (n : Node) :
    includesEvery ps n = ps.all (·.includes n) := by
  induction ps with
  | nil => rfl
  | cons p ps ih => simp [includesEvery, ih]

/-- The policy that asks for one of the listed labels. -/
def ofLabels (names : List String) : Except Error NodePolicy :=
  (nameSet .label names).map .labels

end NodePolicy

end PropertyGraph
