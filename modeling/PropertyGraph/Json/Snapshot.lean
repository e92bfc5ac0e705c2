import PropertyGraph.Json.Decoder
import PropertyGraph.Json.Document
import PropertyGraph.Snapshot.Node
import PropertyGraph.Snapshot.Relationship

/-!
# Snapshots in JSON

A map of texts is an object of strings.  A snapshot is a record of labels or type and properties;
properties that are left out are none.  A snapshot that is read is made like any other: its labels
become a set, and its type must not be empty.
-/

namespace PropertyGraph

open Json

/-- The document of a map of texts. -/
def TextMap.document (m : TextMap) : Document :=
  .object (m.entries.map fun (k, v) => (k, .string v))

/-- The reader of a map of texts. -/
def TextMap.decoder : Decoder TextMap := readMap readText

/-- The document of a snapshot of a node. -/
def NodeSnapshot.document (s : NodeSnapshot) : Document :=
  .object [("labels", .strings s.labels.toList), ("properties", TextMap.document s.properties)]

/-- The fields of a snapshot of a node: the labels as they are listed, and the texts. -/
def NodeSnapshot.fields : List (RecordField (List String × TextMap)) :=
  [.reading "labels" true (readList readText) fun s labels => (labels, s.2),
    .reading "properties" false TextMap.decoder fun s properties => (s.1, properties)]

/-- The reader of a snapshot of a node. -/
def NodeSnapshot.decoder : Decoder NodeSnapshot := fun depth t =>
  (readRecord NodeSnapshot.fields false ([], .empty) depth t).map fun (labels, properties) =>
    .make labels properties

/-- The document of a snapshot of a relationship. -/
def RelationshipSnapshot.document (s : RelationshipSnapshot) : Document :=
  .object [("rel_type", .string s.type), ("properties", TextMap.document s.properties)]

/-- The fields of a snapshot of a relationship: the type and the texts. -/
def RelationshipSnapshot.fields : List (RecordField (String × TextMap)) :=
  [.reading "rel_type" true readText fun s type => (type, s.2),
    .reading "properties" false TextMap.decoder fun s properties => (s.1, properties)]

/-- The reader of a snapshot of a relationship. -/
def RelationshipSnapshot.decoder : Decoder RelationshipSnapshot := fun depth t => do
  let (type, properties) ← readRecord RelationshipSnapshot.fields false ("", .empty) depth t
  match RelationshipSnapshot.make type properties with
  | .ok s => return s
  | .error cause => throw (.refused cause)

end PropertyGraph
