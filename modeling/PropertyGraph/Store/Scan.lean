import PropertyGraph.Policy.Node
import PropertyGraph.Policy.Relationship
import PropertyGraph.Snapshot.Node
import PropertyGraph.Snapshot.Relationship
import PropertyGraph.Store.Basic

/-!
# Scans by policy

A scan gives the elements of a store that a policy includes, in the order of their ids.  A policy
on relationships is asked for its plain answer.  A reading gives the elements, or their snapshots,
in a transaction of its own, which the store counts.
-/

namespace PropertyGraph

namespace Store

/-- The nodes that a policy includes. -/
def nodesIn (s : Store) (policy : NodePolicy) : List Node := s.allNodes.filter policy.includes

/-- The relationships that a policy includes. -/
def relationshipsIn (s : Store) (policy : RelationshipPolicy) : List Relationship :=
  s.allRelationships.filter policy.includes

/-- The included nodes, read in a transaction of its own. -/
def readNodes (s : Store) (policy : NodePolicy) : List Node × Store :=
  let (_, t) := s.begin .readOnly
  (t.nodesIn policy, t)

/-- The included relationships, read in a transaction of its own. -/
def readRelationships (s : Store) (policy : RelationshipPolicy) : List Relationship × Store :=
  let (_, t) := s.begin .readOnly
  (t.relationshipsIn policy, t)

/-- Snapshots of the included nodes, read in a transaction of its own. -/
def nodeSnapshots (s : Store) (policy : NodePolicy) : List NodeSnapshot × Store :=
  let (nodes, t) := s.readNodes policy
  (nodes.map .ofNode, t)

/-- Snapshots of the included relationships, read in a transaction of its own. -/
def relationshipSnapshots (s : Store) (policy : RelationshipPolicy) :
    List RelationshipSnapshot × Store :=
  let (relationships, t) := s.readRelationships policy
  (relationships.map .ofRelationship, t)

end Store

end PropertyGraph
