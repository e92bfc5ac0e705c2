import PropertyGraph.Json.Element
import PropertyGraph.Policy.Config

/-!
# Configurations in JSON

A configuration is a record of four rules, each of which may be left out; no other field is
allowed.  A rule is a preset by name, or an object with a list of names under `labels`, `types` or
`keys`, and for types optionally a `direction`.

A rule fits one of its alternatives or none, and why it does not fit is not told: the fault then
names the kind of rule alone.  A rule that cannot be read at all is unreadable.

* `PolicyConfig.decoder` — the reader of a configuration;
* `PolicyConfig.ofText` — the configuration that a text describes.
-/

namespace PropertyGraph

open Json

/-- The presets by name. -/
def Preset.choices : List (String × Preset) := [("all", .all), ("none", .none)]

/-- The document of a preset. -/
def Preset.document : Preset → Document
  | .all => .string "all"
  | .none => .string "none"

/-- The reader of a preset. -/
def Preset.decoder : Decoder Preset := readVariant Preset.choices false

/-- A rule by two alternatives: a preset, or else a record that must be an object.  `name` is how
the kind of rule is called. -/
def readRule {σ ρ : Type} (name : String) (preset : Preset → ρ) (fields : List (RecordField σ))
    (blank : σ) (make : σ → ρ) : Decoder ρ := fun depth t =>
  if !t.isSound depth then .error .unreadable
  else match Preset.decoder depth t with
    | .ok p => .ok (preset p)
    | .error _ =>
      match t with
      | .object _ =>
        match readRecord fields true blank depth t with
        | .ok s => .ok (make s)
        | .error _ => .error (.noAlternative name)
      | _ => .error (.noAlternative name)

/-- The field of a list of names. -/
def namesField (name : String) : RecordField (List String) :=
  .reading name true (readList readText) fun _ names => names

/-- The document of a rule for nodes. -/
def NodeRule.document : NodeRule → Document
  | .preset p => p.document
  | .labels names => .object [("labels", .strings names)]

/-- The reader of a rule for nodes. -/
def NodeRule.decoder : Decoder NodeRule :=
  readRule "NodeRule" .preset [namesField "labels"] [] .labels

/-- The document of a rule for relationships. -/
def RelationshipRule.document : RelationshipRule → Document
  | .preset p => p.document
  | .types names direction =>
    .object [("types", .strings names), ("direction", direction.document)]

/-- The fields of a rule for relationships; without a direction it asks for both. -/
def RelationshipRule.fields : List (RecordField (List String × Direction)) :=
  [.reading "types" true (readList readText) fun s names => (names, s.2),
    .reading "direction" false Direction.decoder fun s direction => (s.1, direction)]

/-- The reader of a rule for relationships. -/
def RelationshipRule.decoder : Decoder RelationshipRule :=
  readRule "RelationshipRule" .preset RelationshipRule.fields ([], .both) fun s =>
    .types s.1 s.2

/-- The document of a rule for properties. -/
def PropertyRule.document : PropertyRule → Document
  | .preset p => p.document
  | .keys names => .object [("keys", .strings names)]

/-- The reader of a rule for properties. -/
def PropertyRule.decoder : Decoder PropertyRule :=
  readRule "PropertyRule" .preset [namesField "keys"] [] .keys

/-- The document of a configuration. -/
def PolicyConfig.document (c : PolicyConfig) : Document :=
  .object [("nodes", c.nodes.document), ("node_properties", c.nodeProperties.document),
    ("relationships", c.relationships.document),
    ("relationship_properties", c.relationshipProperties.document)]

/-- The fields of a configuration. -/
def PolicyConfig.fields : List (RecordField PolicyConfig) :=
  [.reading "nodes" false NodeRule.decoder fun c nodes => { c with nodes },
    .reading "node_properties" false PropertyRule.decoder fun c nodeProperties =>
      { c with nodeProperties },
    .reading "relationships" false RelationshipRule.decoder fun c relationships =>
      { c with relationships },
    .reading "relationship_properties" false PropertyRule.decoder fun c relationshipProperties =>
      { c with relationshipProperties }]

/-- The reader of a configuration. -/
def PolicyConfig.decoder : Decoder PolicyConfig := readRecord PolicyConfig.fields true default

/-- The configuration that a text describes. -/
def PolicyConfig.ofText (text : String) : Except Fault PolicyConfig :=
  decodeText PolicyConfig.decoder text

end PropertyGraph
