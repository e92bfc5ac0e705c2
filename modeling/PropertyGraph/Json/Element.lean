import PropertyGraph.Element.Basic
import PropertyGraph.Json.Value
import PropertyGraph.Store.Basic

/-!
# Elements in JSON

Ids are bare numbers, modes and directions are names, and nodes and relationships are records.
The members of their objects are written in the order of the fields, properties in the order of
their keys.  Members under other names are passed over when a record is read.
-/

namespace PropertyGraph

open Json

/-! ## Ids, modes and directions -/

/-- An unsigned number. -/
def Json.readUnsignedNumber : Decoder UInt64 := readNumber Numeral.toUnsigned?

/-- The document of an unsigned number. -/
def Json.Document.unsigned (n : UInt64) : Document := .int n.toNat

/-- The document of a node's id. -/
def NodeId.document (id : NodeId) : Document := .unsigned id.number

/-- The document of a relationship's id. -/
def RelationshipId.document (id : RelationshipId) : Document := .unsigned id.number

/-- The document of a transaction's id. -/
def TransactionId.document (id : TransactionId) : Document := .unsigned id.number

/-- The reader of a node's id. -/
def NodeId.decoder : Decoder NodeId := fun depth t => (readUnsignedNumber depth t).map NodeId.mk

/-- The reader of a relationship's id. -/
def RelationshipId.decoder : Decoder RelationshipId := fun depth t =>
  (readUnsignedNumber depth t).map RelationshipId.mk

/-- The reader of a transaction's id. -/
def TransactionId.decoder : Decoder TransactionId := fun depth t =>
  (readUnsignedNumber depth t).map TransactionId.mk

/-- The modes of a transaction by name. -/
def TransactionMode.choices : List (String × TransactionMode) :=
  [("ReadOnly", .readOnly), ("ReadWrite", .readWrite)]

/-- The document of a mode. -/
def TransactionMode.document : TransactionMode → Document
  | .readOnly => .string "ReadOnly"
  | .readWrite => .string "ReadWrite"

/-- The reader of a mode. -/
def TransactionMode.decoder : Decoder TransactionMode := readVariant TransactionMode.choices false

/-- The directions by name. -/
def Direction.choices : List (String × Direction) :=
  [("Outgoing", .outgoing), ("Incoming", .incoming), ("Both", .both)]

/-- The document of a direction. -/
def Direction.document : Direction → Document
  | .outgoing => .string "Outgoing"
  | .incoming => .string "Incoming"
  | .both => .string "Both"

/-- The reader of a direction. -/
def Direction.decoder : Decoder Direction := readVariant Direction.choices false

/-! ## Nodes and relationships -/

/-- The document of properties. -/
def PropertyMap.document (m : PropertyMap) : Document :=
  .object (m.entries.map fun (k, v) => (k, v.document))

/-- The reader of properties. -/
def PropertyMap.decoder : Decoder PropertyMap := readMap Value.decoder

/-- The document of a node. -/
def Node.document (n : Node) : Document :=
  .object [("id", n.id.document), ("labels", .strings n.labels),
    ("properties", PropertyMap.document n.properties)]

/-- The fields of a node. -/
def Node.fields : List (RecordField Node) :=
  [.reading "id" true NodeId.decoder fun n id => { n with id },
    .reading "labels" true (readList readText) fun n labels => { n with labels },
    .reading "properties" true PropertyMap.decoder fun n properties => { n with properties }]

/-- The reader of a node. -/
def Node.decoder : Decoder Node := readRecord Node.fields false default

/-- The document of a relationship. -/
def Relationship.document (r : Relationship) : Document :=
  .object [("id", r.id.document), ("src", r.source.document), ("dst", r.target.document),
    ("rel_type", .string r.type), ("properties", PropertyMap.document r.properties)]

/-- The fields of a relationship. -/
def Relationship.fields : List (RecordField Relationship) :=
  [.reading "id" true RelationshipId.decoder fun r id => { r with id },
    .reading "src" true NodeId.decoder fun r source => { r with source },
    .reading "dst" true NodeId.decoder fun r target => { r with target },
    .reading "rel_type" true readText fun r type => { r with type },
    .reading "properties" true PropertyMap.decoder fun r properties => { r with properties }]

/-- The reader of a relationship. -/
def Relationship.decoder : Decoder Relationship := readRecord Relationship.fields false default

end PropertyGraph
