import PropertyGraph.Policy.Bundle

/-!
# Configurations

A configuration describes a bundle of policies with plain data: each section is a preset or a
list of names, and a section that is not mentioned includes everything.  Building a bundle fails
on an empty name.  The sections are built in the order nodes, relationships, node properties,
relationship properties, so of several empty names the first one in that order is reported.
-/

namespace PropertyGraph

/-- The two rules without a list of names. -/
inductive Preset where
  | all
  | none
  deriving DecidableEq

/-- The rule of the nodes. -/
inductive NodeRule where
  | preset (p : Preset)
  | labels (names : List String)
  deriving DecidableEq

/-- The rule of the relationships. -/
inductive RelationshipRule where
  | preset (p : Preset)
  | types (names : List String) (direction : Direction)
  deriving DecidableEq

/-- The rule of the properties of nodes or of relationships. -/
inductive PropertyRule where
  | preset (p : Preset)
  | keys (names : List String)
  deriving DecidableEq

instance : Inhabited NodeRule := ⟨.preset .all⟩

instance : Inhabited RelationshipRule := ⟨.preset .all⟩

instance : Inhabited PropertyRule := ⟨.preset .all⟩

/-- A description of a bundle. -/
structure PolicyConfig where
  nodes : NodeRule := default
  nodeProperties : PropertyRule := default
  relationships : RelationshipRule := default
  relationshipProperties : PropertyRule := default
  deriving DecidableEq

instance : Inhabited PolicyConfig := ⟨{}⟩

/-- The policy of a rule for nodes. -/
def NodeRule.build : NodeRule → Except Error NodePolicy
  | .preset .all => .ok .all
  | .preset .none => .ok .none
  | .labels names => NodePolicy.ofLabels names

/-- The policy of a rule for relationships. -/
def RelationshipRule.build : RelationshipRule → Except Error RelationshipPolicy
  | .preset .all => .ok .all
  | .preset .none => .ok .none
  | .types names direction => RelationshipPolicy.ofTypes names direction

/-- The policy of a rule for properties. -/
def PropertyRule.build {ε : Type} : PropertyRule → Except Error (PropertyPolicy ε)
  | .preset .all => .ok .all
  | .preset .none => .ok .none
  | .keys names => PropertyPolicy.ofKeys names

/-- The bundle that a configuration describes. -/
def PolicyConfig.build (c : PolicyConfig) : Except Error PolicyBundle := do
  let nodes ← c.nodes.build
  let relationships ← c.relationships.build
  let nodeProperties ← c.nodeProperties.build
  let relationshipProperties ← c.relationshipProperties.build
  return ⟨nodes, nodeProperties, relationships, relationshipProperties⟩

end PropertyGraph
