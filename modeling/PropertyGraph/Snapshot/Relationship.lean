import PropertyGraph.Error
import PropertyGraph.Snapshot.Properties

/-!
# Snapshots of relationships

A snapshot of a relationship keeps its type and its properties as texts, and neither its id nor
its ends.  A snapshot that is made from a type must have one; a snapshot of a live relationship
takes the type as it is.
-/

namespace PropertyGraph

/-- The type and the texts of the properties of a relationship. -/
structure RelationshipSnapshot where
  type : String
  properties : TextMap
  deriving DecidableEq, Hashable

namespace RelationshipSnapshot

/-- The snapshot with a type, which must not be empty, and the given texts. -/
def make (type : String) (properties : TextMap) : Except Error RelationshipSnapshot :=
  if type = "" then .error (.emptyName .relationshipType) else .ok ⟨type, properties⟩

/-- The snapshot with a type and no properties. -/
def ofType (type : String) : Except Error RelationshipSnapshot := make type .empty

/-- The snapshot of a relationship with given texts in place of its properties. -/
def ofRelationshipWith (r : Relationship) (properties : TextMap) : RelationshipSnapshot :=
  ⟨r.type, properties⟩

/-- The snapshot of a relationship. -/
def ofRelationship (r : Relationship) : RelationshipSnapshot :=
  ofRelationshipWith r (.ofLive r.properties)

/-- A snapshot made from the type and texts of another. -/
def copy (s : RelationshipSnapshot) : RelationshipSnapshot := ⟨s.type, s.properties⟩

/-- Whether two snapshots have the same type and the same texts. -/
def matchesSnapshot (s t : RelationshipSnapshot) : Bool :=
  s.type == t.type && decide (s.properties = t.properties)

/-- Whether a relationship has this type and exactly these properties now. -/
def matchesRelationship (s : RelationshipSnapshot) (r : Relationship) : Bool :=
  s.type == r.type && s.properties.matchesLive r.properties

/-- The text of a snapshot: the type and the properties. -/
def display (s : RelationshipSnapshot) : String := s.type ++ s.properties.display

end RelationshipSnapshot

end PropertyGraph
