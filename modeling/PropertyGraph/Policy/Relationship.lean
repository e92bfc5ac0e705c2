import PropertyGraph.Element.Basic
import PropertyGraph.Policy.Names

/-!
# Policies on relationships

A policy on relationships gives two answers: the plain one, and the one from the point of view
of a node that reaches the relationship.  Only the policy that filters by type and direction
tells them apart by itself: its direction counts from a point of view alone.  A conjunction and a
shared pointer pass on whichever of the two questions they are asked.

* `includesEvery_eq_all`, `includesEveryFrom_eq_all` — a conjunction includes what all its
  members include, in either sense.
-/

namespace PropertyGraph

/-- A decision about relationships. -/
inductive RelationshipPolicy where
  | all
  | none
  /-- relationships of one of the types, or of any type if there are none; from a point of view
  they must also be seen in the direction -/
  | types (names : NameSet) (direction : Direction)
  /-- relationships that every member includes -/
  | allOf (members : List RelationshipPolicy)
  /-- a policy behind a shared pointer -/
  | shared (policy : RelationshipPolicy)
  /-- any other decision that does not depend on the point of view, under a name of its own -/
  | custom (name : String) (accepts : Relationship → Bool)
  /-- any other decision with an answer of its own from each point of view -/
  | customFrom (name : String) (accepts : Relationship → Bool)
      (acceptsFrom : Relationship → NodeId → Bool)

namespace RelationshipPolicy

/-- Whether a relationship has one of the types; no types ask for nothing. -/
def hasType (names : NameSet) (r : Relationship) : Bool :=
  names.isEmpty || names.contains r.type

/-- Whether a node sees a relationship in the direction. -/
def seenFrom (direction : Direction) (r : Relationship) (pointOfView : NodeId) : Bool :=
  match r.directionFrom pointOfView with
  | some actual => direction.admits actual
  | Option.none => false

mutual

/-- Whether the policy includes a relationship. -/
def includes : RelationshipPolicy → Relationship → Bool
  | .all, _ => true
  | .none, _ => false
  | .types names _, r => hasType names r
  | .allOf members, r => includesEvery members r
  | .shared policy, r => includes policy r
  | .custom _ accepts, r => accepts r
  | .customFrom _ accepts _, r => accepts r

/-- Whether all the policies include a relationship. -/
def includesEvery : List RelationshipPolicy → Relationship → Bool
  | [], _ => true
  | p :: ps, r => includes p r && includesEvery ps r

end

mutual

/-- Whether the policy includes a relationship that is reached from a node. -/
def includesFrom : RelationshipPolicy → Relationship → NodeId → Bool
  | .all, _, _ => true
  | .none, _, _ => false
  | .types names direction, r, pointOfView =>
    hasType names r && seenFrom direction r pointOfView
  | .allOf members, r, pointOfView => includesEveryFrom members r pointOfView
  | .shared policy, r, pointOfView => includesFrom policy r pointOfView
  | .custom _ accepts, r, _ => accepts r
  | .customFrom _ _ acceptsFrom, r, pointOfView => acceptsFrom r pointOfView

/-- Whether all the policies include a relationship that is reached from a node. -/
def includesEveryFrom : List RelationshipPolicy → Relationship → NodeId → Bool
  | [], _, _ => true
  | p :: ps, r, pointOfView => includesFrom p r pointOfView && includesEveryFrom ps r pointOfView

end

theorem includesEvery_eq_all (ps : List RelationshipPolicy) (r : Relationship) :
    includesEvery ps r = ps.all (·.includes r) := by
  induction ps with
  | nil => rfl
  | cons p ps ih => simp [includesEvery, ih]

theorem includesEveryFrom_eq_all (ps : List RelationshipPolicy) (r : Relationship)
    (pointOfView : NodeId) :
    includesEveryFrom ps r pointOfView = ps.all (·.includesFrom r pointOfView) := by
  induction ps with
  | nil => rfl
  | cons p ps ih => simp [includesEveryFrom, ih]

/-- The policy that asks for one of the listed types, seen in a direction. -/
def ofTypes (names : List String) (direction : Direction) : Except Error RelationshipPolicy :=
  (nameSet .relationshipType names).map (.types · direction)

end RelationshipPolicy

end PropertyGraph
