import PropertyGraph.Policy.Node
import PropertyGraph.Policy.Property
import PropertyGraph.Policy.Relationship

/-!
# Bundles of policies

A bundle has one policy for each of four sections: nodes, their properties, relationships and
their properties.  A bundle is a value: replacing a section gives another bundle.
-/

namespace PropertyGraph

/-- One policy of each kind. -/
structure PolicyBundle where
  nodes : NodePolicy
  nodeProperties : PropertyPolicy Node
  relationships : RelationshipPolicy
  relationshipProperties : PropertyPolicy Relationship

namespace PolicyBundle

/-- The bundle that includes everything. -/
def all : PolicyBundle := ⟨.all, .all, .all, .all⟩

/-- The bundle that includes nothing. -/
def none : PolicyBundle := ⟨.none, .none, .none, .none⟩

instance : Inhabited PolicyBundle := ⟨all⟩

/-- A new policy for one of the sections. -/
inductive Replacement where
  | nodes (policy : NodePolicy)
  | nodeProperties (policy : PropertyPolicy Node)
  | relationships (policy : RelationshipPolicy)
  | relationshipProperties (policy : PropertyPolicy Relationship)

/-- The bundle with one section replaced. -/
def replace (b : PolicyBundle) : Replacement → PolicyBundle
  | .nodes policy => { b with nodes := policy }
  | .nodeProperties policy => { b with nodeProperties := policy }
  | .relationships policy => { b with relationships := policy }
  | .relationshipProperties policy => { b with relationshipProperties := policy }

end PolicyBundle

end PropertyGraph
