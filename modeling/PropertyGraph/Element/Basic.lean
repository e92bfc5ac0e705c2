import PropertyGraph.Collection.OrderedMap
import PropertyGraph.Element.Identifier
import PropertyGraph.Value.Basic

/-!
# Nodes and relationships

The elements of a property graph.  A node has labels, in the order and with the repetitions it
was given; a relationship leads from a source to a target and has one type; both hold properties.

Seen from one of its ends a relationship has a direction.  A loop at a node is seen in both
directions at once, and from any other node a relationship has no direction.
-/

namespace PropertyGraph

/-- The properties of an element. -/
abbrev PropertyMap := OrderedMap String Value

/-- Equality of property maps: the same keys with equal values. -/
def PropertyMap.equals (a b : PropertyMap) : Bool :=
  a.size == b.size && a.entries.all fun (k, v) =>
    match b.get? k with
    | some w => v.equals w
    | none => false

/-- A node. -/
structure Node where
  id : NodeId
  labels : List String
  properties : PropertyMap

/-- A relationship. -/
structure Relationship where
  id : RelationshipId
  source : NodeId
  target : NodeId
  type : String
  properties : PropertyMap

instance : Inhabited Node := ⟨⟨⟨0⟩, [], .empty⟩⟩

instance : Inhabited Relationship := ⟨⟨⟨0⟩, ⟨0⟩, ⟨0⟩, "", .empty⟩⟩

/-- The direction of a relationship as seen from a node, or the directions that are asked for. -/
inductive Direction where
  | outgoing
  | incoming
  | both
  deriving DecidableEq

instance : Inhabited Direction := ⟨.both⟩

/-- Whether a relationship seen in direction `actual` is one that is asked for. -/
def Direction.admits (wanted actual : Direction) : Bool :=
  wanted == .both || actual == .both || wanted == actual

namespace Node

/-- Whether the node carries a label. -/
def hasLabel (n : Node) (label : String) : Bool := n.labels.any (· == label)

/-- The value of a property. -/
def get? (n : Node) (key : String) : Option Value := n.properties.get? key

/-- The node with a property set. -/
def setProperty (n : Node) (key : String) (value : Value) : Node :=
  { n with properties := n.properties.insert key value }

/-- Equality of nodes: the same id, the same list of labels and equal properties. -/
def equals (a b : Node) : Bool :=
  decide (a.id = b.id) && a.labels == b.labels && PropertyMap.equals a.properties b.properties

end Node

namespace Relationship

/-- The relationship with a property set. -/
def setProperty (r : Relationship) (key : String) (value : Value) : Relationship :=
  { r with properties := r.properties.insert key value }

/-- The direction of the relationship from a node; none if the node is not an end of it. -/
def directionFrom (r : Relationship) (pointOfView : NodeId) : Option Direction :=
  if r.source = pointOfView then
    if r.target = pointOfView then some .both else some .outgoing
  else if r.target = pointOfView then some .incoming
  else none

/-- Equality of relationships: the same id, ends and type and equal properties. -/
def equals (a b : Relationship) : Bool :=
  decide (a.id = b.id) && decide (a.source = b.source) && decide (a.target = b.target) &&
    a.type == b.type && PropertyMap.equals a.properties b.properties

end Relationship

end PropertyGraph
