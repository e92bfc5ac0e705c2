import PropertyGraph.Collection.OrderedSet
import PropertyGraph.Snapshot.Properties

/-!
# Snapshots of nodes

A snapshot of a node keeps its labels as a set and its properties as texts.  It knows nothing of
the node's id or of the store, and two snapshots are the same iff they have the same labels and
the same texts.

* `copy_eq` — copying a snapshot gives the same snapshot.
-/

namespace PropertyGraph

/-- The labels and the texts of the properties of a node. -/
structure NodeSnapshot where
  labels : OrderedSet String
  properties : TextMap
  deriving DecidableEq, Hashable

namespace NodeSnapshot

/-- The snapshot with the listed labels and the given texts. -/
def make (labels : List String) (properties : TextMap) : NodeSnapshot :=
  ⟨.ofList labels, properties⟩

/-- The snapshot of a node with given texts in place of its properties. -/
def ofNodeWith (n : Node) (properties : TextMap) : NodeSnapshot := make n.labels properties

/-- The snapshot of a node. -/
def ofNode (n : Node) : NodeSnapshot := ofNodeWith n (.ofLive n.properties)

/-- A snapshot made from the labels and texts of another. -/
def copy (s : NodeSnapshot) : NodeSnapshot := make s.labels.toList s.properties

/-- Whether the snapshot has a label. -/
def hasLabel (s : NodeSnapshot) (label : String) : Bool := s.labels.toList.any (· == label)

/-- Whether two snapshots have the same labels and the same texts. -/
def matchesSnapshot (s t : NodeSnapshot) : Bool :=
  decide (s.labels = t.labels) && decide (s.properties = t.properties)

/-- Whether a node has these labels and exactly these properties now. -/
def matchesNode (s : NodeSnapshot) (n : Node) : Bool :=
  decide (OrderedSet.ofList n.labels = s.labels) && s.properties.matchesLive n.properties

/-- The text of a snapshot: the labels, each after a colon, and the properties if there are
any, in parentheses. -/
def display (s : NodeSnapshot) : String :=
  let labels := String.join (s.labels.toList.map (":" ++ ·))
  let gap := if s.labels.isEmpty then "" else " "
  "(" ++ labels ++ (if s.properties.isEmpty then "" else gap ++ s.properties.display) ++ ")"

theorem copy_eq (s : NodeSnapshot) : s.copy = s := by
  have h : OrderedSet.ofList s.labels.toList = s.labels :=
    OrderedSet.ext_mem fun k => OrderedSet.mem_ofList s.labels.toList k
  cases s
  simp_all [copy, make]

end NodeSnapshot

end PropertyGraph
