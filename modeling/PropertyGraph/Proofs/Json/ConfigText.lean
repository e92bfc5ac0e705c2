import PropertyGraph.Json.Config
import PropertyGraph.Json.Record

/-!
# Which texts are configurations

What a configuration looks like in JSON, said of documents and not of a reader.  A rule is a preset
by its name, or an object that has the key of its list of names once and no other key; with types
there may be a direction.  A configuration is an object whose keys are among four, each of them once
at most, and whose members are rules for their sections.

The reader accepts these documents and no others.  So a key that is misspelled or repeated is never
taken for a section that is left out, which would include everything.  Spelling does not matter:
blanks, escapes and the order of members give the same configuration.

* `readRule_iff` — a rule of two alternatives is read from the documents that state it;
* `NodeRule.decoder_iff`, `PropertyRule.decoder_iff`, `RelationshipRule.decoder_iff` — the rules;
* `PolicyConfig.exists_decoder_iff`, `PolicyConfig.decoder_iff` — which objects are configurations,
  and of what;
* `PolicyConfig.ofText_iff_statedBy` — the same for every text that spells an object.
-/

namespace PropertyGraph

open Json

/-! ## What a document states -/

/-- A rule that is a preset by name, or that the members of an object state. -/
inductive RuleStatedBy {ρ : Type} (preset : Preset → ρ)
    (states : List (String × Document) → ρ → Prop) : Document → ρ → Prop
  | preset {d : Document} {p : Preset} :
      d.Chooses Preset.choices p → RuleStatedBy preset states d (preset p)
  | object {ms : List (String × Document)} {rule : ρ} :
      states ms rule → RuleStatedBy preset states (.object ms) rule

/-- The members of a rule with a list of names: the key of the list and nothing else. -/
def StatesNames {ρ : Type} (key : String) (make : List String → ρ)
    (ms : List (String × Document)) (rule : ρ) : Prop :=
  KeyedBy [key] ms ∧ ∃ names, (key, .strings names) ∈ ms ∧ rule = make names

/-- The members of a rule with a list of types: the list, and a direction unless it is both. -/
def StatesTypes (ms : List (String × Document)) (rule : RelationshipRule) : Prop :=
  KeyedBy ["types", "direction"] ms ∧ ∃ names direction, ("types", .strings names) ∈ ms ∧
    MemberStates (Document.Chooses Direction.choices) .both ms "direction" direction ∧
    rule = .types names direction

/-- The rule for nodes that a document states. -/
def NodeRule.StatedBy : Document → NodeRule → Prop :=
  RuleStatedBy .preset (StatesNames "labels" .labels)

/-- The rule for properties that a document states. -/
def PropertyRule.StatedBy : Document → PropertyRule → Prop :=
  RuleStatedBy .preset (StatesNames "keys" .keys)

/-- The rule for relationships that a document states. -/
def RelationshipRule.StatedBy : Document → RelationshipRule → Prop :=
  RuleStatedBy .preset StatesTypes

namespace PolicyConfig

/-- The keys of a configuration. -/
def sections : List String :=
  ["nodes", "node_properties", "relationships", "relationship_properties"]

/-- The members of an object state a configuration: each is the rule of its section, and a section
without a member includes everything. -/
structure StatedBy (ms : List (String × Document)) (c : PolicyConfig) : Prop where
  keys : KeyedBy sections ms
  nodes : MemberStates NodeRule.StatedBy (.preset .all) ms "nodes" c.nodes
  nodeProperties :
    MemberStates PropertyRule.StatedBy (.preset .all) ms "node_properties" c.nodeProperties
  relationships :
    MemberStates RelationshipRule.StatedBy (.preset .all) ms "relationships" c.relationships
  relationshipProperties :
    MemberStates PropertyRule.StatedBy (.preset .all) ms "relationship_properties"
      c.relationshipProperties

/-- The members of an object are rules for sections, none of them named twice. -/
structure Grammatical (ms : List (String × Document)) : Prop where
  keys : KeyedBy sections ms
  nodes : ∀ d, ("nodes", d) ∈ ms → ∃ rule, NodeRule.StatedBy d rule
  nodeProperties : ∀ d, ("node_properties", d) ∈ ms → ∃ rule, PropertyRule.StatedBy d rule
  relationships : ∀ d, ("relationships", d) ∈ ms → ∃ rule, RelationshipRule.StatedBy d rule
  relationshipProperties :
    ∀ d, ("relationship_properties", d) ∈ ms → ∃ rule, PropertyRule.StatedBy d rule

end PolicyConfig

/-! ## Rules -/

/-- The two alternatives of a rule, tried one after the other. -/
theorem readRule_eq_ok {σ ρ : Type} {name : String} {preset : Preset → ρ}
    {fields : List (RecordField σ)} {blank : σ} {make : σ → ρ} {depth : Nat} {d : Document}
    {rule : ρ} :
    readRule name preset fields blank make depth d.tree = .ok rule ↔
      d.tree.isSound depth = true ∧
        ((∃ p, Preset.decoder depth d.tree = .ok p ∧ rule = preset p) ∨
          (∀ p, Preset.decoder depth d.tree ≠ .ok p) ∧ ∃ ms s, d = .object ms ∧
            readRecord fields true blank depth d.tree = .ok s ∧ rule = make s) := by
  unfold readRule
  cases d.tree.isSound depth with
  | false => simp
  | true =>
    cases Preset.decoder depth d.tree with
    | ok p => simp [eq_comm]
    | error fault =>
      cases d with
      | object ms =>
        simp only [Document.tree]
        cases readRecord fields true blank depth (.object (memberTrees ms)) <;> simp [eq_comm]
      | _ => simp [Document.tree]

/-- **A rule is read from the documents that state it**, given that its record is read from the
members that state it, that these can be read in full and that they are no preset. -/
theorem readRule_iff {σ ρ : Type} {name : String} {preset : Preset → ρ}
    {fields : List (RecordField σ)} {blank : σ} {make : σ → ρ}
    {states : List (String × Document) → ρ → Prop} {depth : Nat}
    (hread : ∀ ms rule, states ms rule ↔ ∃ s, rule = make s ∧
      readRecord fields true blank (depth + 1) (Document.object ms).tree = .ok s)
    (hsound : ∀ ms rule, states ms rule →
      (Document.object ms).tree.isSound (depth + 1) = true)
    (hkeys : ∀ ms rule, states ms rule →
      ∀ key ∈ ms.map Prod.fst, key ∉ Preset.choices.map Prod.fst)
    {d : Document} {rule : ρ} :
    readRule name preset fields blank make (depth + 1) d.tree = .ok rule ↔
      RuleStatedBy preset states d rule := by
  have hpreset : ∀ p, Preset.decoder (depth + 1) d.tree = .ok p ↔ d.Chooses Preset.choices p :=
    fun p => readVariant_iff (by decide) depth
  rw [readRule_eq_ok]
  constructor
  · intro h
    obtain ⟨-, ⟨p, hp, rfl⟩ | ⟨-, ms, s, rfl, hs, rfl⟩⟩ := h
    · exact .preset ((hpreset p).1 hp)
    · exact .object ((hread ms _).2 ⟨s, rfl, hs⟩)
  · intro h
    cases h with
    | @preset d p hp =>
      have hwhole := isSound_of_chooses hp depth
      exact ⟨hwhole, Or.inl ⟨p, (hpreset p).2 hp, rfl⟩⟩
    | @object ms rule hstates =>
      have hwhole := hsound ms rule hstates
      have hno : ∀ p, Preset.decoder (depth + 1) (Document.object ms).tree ≠ .ok p := by
        intro p hp
        obtain ⟨key, hkey, hstring | hobject⟩ := (hpreset p).1 hp
        · cases hstring
        · obtain rfl := Document.object.inj hobject
          exact hkeys _ _ hstates key List.mem_cons_self (List.mem_map_of_mem hkey)
      obtain ⟨s, hmake, hs⟩ := (hread ms rule).1 hstates
      exact ⟨hwhole, Or.inr ⟨hno, ms, s, rfl, hs, hmake⟩⟩

/-! ## Rules with a list of names -/

theorem component_namesField (key : String) :
    Component [namesField key] key (readList readText) id where
  isField := by simp [namesField]
  own := by simp +contextual [namesField]
  other := by simp [namesField]

theorem steady_namesField (key : String) : ∀ field ∈ [namesField key], field.Steady := by
  simp [namesField, steady_reading]

/-- The record of a list of names is read from an object with its key alone. -/
theorem readNames_iff {key : String} {depth : Nat} {ms : List (String × Document)}
    {names : List String} :
    readRecord [namesField key] true [] (depth + 2) (Document.object ms).tree = .ok names ↔
      KeyedBy [key] ms ∧ (key, .strings names) ∈ ms := by
  have hnodup : ([namesField key].map (·.name)).Nodup := List.nodup_singleton _
  refine readRecord_iff (P := fun names => (key, .strings names) ∈ ms) hnodup
    (steady_namesField key) ?_ ?_ ?_
  · intro names hread
    have hmembers : readFieldMembers [namesField key] true (depth + 1) [] [] (memberTrees ms) =
        .ok names := hread
    have hhas := (component_namesField key).has_strings ⟨_, List.mem_singleton_self _, rfl, rfl⟩
      hmembers
    obtain ⟨d, hd, htree⟩ := has_memberTrees.1 hhas
    rwa [Document.tree_injective htree] at hd
  · intro hkeys names others hnames hothers
    exact strings_injective (hkeys.unique hnames hothers)
  · intro hkeys names hnames
    have haccepts : ∀ d, (key, d) ∈ ms →
        ∃ names, readList readText (depth + 1) d.tree = .ok names := by
      intro d hd
      rw [hkeys.unique hd hnames]
      exact ⟨names, readList_text_iff.2 ⟨Nat.succ_pos _, rfl⟩⟩
    have hpresent : key ∈ ms.map Prod.fst := List.mem_map.2 ⟨_, hnames, rfl⟩
    constructor
    · simpa [namesField, accepts_reading] using haccepts
    · simpa [namesField] using hpresent

/-- **A rule with a list of names is read from the documents that state it.** -/
theorem readNamesRule_iff {ρ : Type} {name key : String} {preset : Preset → ρ}
    {make : List String → ρ} (hkey : key ∉ Preset.choices.map Prod.fst) {depth : Nat}
    {d : Document} {rule : ρ} :
    readRule name preset [namesField key] [] make (depth + 2) d.tree = .ok rule ↔
      RuleStatedBy preset (StatesNames key make) d rule := by
  refine readRule_iff (fun ms rule => ?_) (fun ms rule h => ?_) (fun ms rule h => ?_)
  · simp only [StatesNames, readNames_iff]
    constructor
    · intro h
      obtain ⟨hkeys, names, hnames, rfl⟩ := h
      exact ⟨names, rfl, hkeys, hnames⟩
    · intro h
      obtain ⟨names, rfl, hkeys, hnames⟩ := h
      exact ⟨hkeys, names, hnames, rfl⟩
  · obtain ⟨hkeys, names, hnames, -⟩ := h
    refine isSound_members fun m hm => ?_
    obtain ⟨k, d⟩ := m
    obtain rfl : k = key := by simpa using hkeys.known k (List.mem_map_of_mem hm)
    rw [hkeys.unique hm hnames]
    exact isSound_strings depth names
  · intro k hk
    obtain rfl : k = key := by simpa using h.1.known k hk
    exact hkey

theorem NodeRule.decoder_iff (depth : Nat) {d : Document} {rule : NodeRule} :
    NodeRule.decoder (depth + 2) d.tree = .ok rule ↔ NodeRule.StatedBy d rule :=
  readNamesRule_iff (by decide)

theorem PropertyRule.decoder_iff (depth : Nat) {d : Document} {rule : PropertyRule} :
    PropertyRule.decoder (depth + 2) d.tree = .ok rule ↔ PropertyRule.StatedBy d rule :=
  readNamesRule_iff (by decide)

/-! ## Rules with types and a direction -/

theorem component_types :
    Component RelationshipRule.fields "types" (readList readText) Prod.fst where
  isField := by simp [RelationshipRule.fields]
  own := by simp +contextual [RelationshipRule.fields]
  other := by simp +contextual [RelationshipRule.fields]

theorem component_direction :
    Component RelationshipRule.fields "direction" Direction.decoder Prod.snd where
  isField := by simp [RelationshipRule.fields]
  own := by simp +contextual [RelationshipRule.fields]
  other := by simp +contextual [RelationshipRule.fields]

theorem direction_decoder_iff {depth : Nat} {d : Document} {direction : Direction} :
    Direction.decoder (depth + 1) d.tree = .ok direction ↔
      d.Chooses Direction.choices direction :=
  readVariant_iff (by decide) depth

/-- The record of a list of types is read from an object with the list and perhaps a direction. -/
theorem readTypes_iff {depth : Nat} {ms : List (String × Document)} {names : List String}
    {direction : Direction} :
    readRecord RelationshipRule.fields true ([], .both) (depth + 2) (Document.object ms).tree =
        .ok (names, direction) ↔
      KeyedBy ["types", "direction"] ms ∧ ("types", .strings names) ∈ ms ∧
        MemberStates (Document.Chooses Direction.choices) .both ms "direction" direction := by
  have hnodup : (RelationshipRule.fields.map (·.name)).Nodup := by decide
  have hsteady : ∀ field ∈ RelationshipRule.fields, field.Steady := by
    simp [RelationshipRule.fields, steady_reading]
  refine readRecord_iff (P := fun s => ("types", .strings s.1) ∈ ms ∧
    MemberStates (Document.Chooses Direction.choices) .both ms "direction" s.2) hnodup hsteady
    ?_ ?_ ?_
  · intro s hread
    have hmembers : readFieldMembers RelationshipRule.fields true (depth + 1) [] ([], .both)
        (memberTrees ms) = .ok s := hread
    have hhas := component_types.has_strings ⟨_, List.mem_cons_self, rfl, rfl⟩ hmembers
    obtain ⟨d, hd, htree⟩ := has_memberTrees.1 hhas
    rw [Document.tree_injective htree] at hd
    have hdirection := component_direction.memberStates
      (fun _ _ => direction_decoder_iff.1) hmembers
    exact ⟨hd, hdirection⟩
  · rintro hkeys ⟨names, direction⟩ ⟨others, other⟩ ⟨hnames, hdirection⟩ ⟨hothers, hother⟩
    have htypes : names = others := strings_injective (hkeys.unique hnames hothers)
    have hsame : direction = other :=
      hdirection.unique hother hkeys fun d => chooses_unique (by decide)
    rw [htypes, hsame]
  · rintro hkeys ⟨names, direction⟩ ⟨hnames, hdirection⟩
    have htypes : ∀ d, ("types", d) ∈ ms →
        ∃ names, readList readText (depth + 1) d.tree = .ok names := by
      intro d hd
      rw [hkeys.unique hd hnames]
      exact ⟨names, readList_text_iff.2 ⟨Nat.succ_pos _, rfl⟩⟩
    have hchoice : ∀ d, ("direction", d) ∈ ms →
        ∃ direction, Direction.decoder (depth + 1) d.tree = .ok direction := by
      intro d hd
      exact ⟨direction, direction_decoder_iff.2 (hdirection.of_mem hkeys hd)⟩
    have hpresent : "types" ∈ ms.map Prod.fst := List.mem_map.2 ⟨_, hnames, rfl⟩
    constructor
    · simpa [RelationshipRule.fields, accepts_reading] using ⟨htypes, hchoice⟩
    · simpa [RelationshipRule.fields] using hpresent

/-- **A rule with types is read from the documents that state it.** -/
theorem RelationshipRule.decoder_iff (depth : Nat) {d : Document} {rule : RelationshipRule} :
    RelationshipRule.decoder (depth + 2) d.tree = .ok rule ↔ RelationshipRule.StatedBy d rule := by
  refine readRule_iff (fun ms rule => ?_) (fun ms rule h => ?_) (fun ms rule h => ?_)
  · constructor
    · intro h
      obtain ⟨hkeys, names, direction, hnames, hdirection, rfl⟩ := h
      exact ⟨(names, direction), rfl, readTypes_iff.2 ⟨hkeys, hnames, hdirection⟩⟩
    · intro h
      obtain ⟨⟨names, direction⟩, rfl, hread⟩ := h
      obtain ⟨hkeys, hnames, hdirection⟩ := readTypes_iff.1 hread
      exact ⟨hkeys, names, direction, hnames, hdirection, rfl⟩
  · obtain ⟨hkeys, names, direction, hnames, hdirection, -⟩ := h
    refine isSound_members fun m hm => ?_
    obtain ⟨k, d⟩ := m
    obtain rfl | rfl : k = "types" ∨ k = "direction" := by
      simpa using hkeys.known k (List.mem_map_of_mem hm)
    · rw [hkeys.unique hm hnames]
      exact isSound_strings depth names
    · exact isSound_of_chooses (hdirection.of_mem hkeys hm) depth
  · intro k hk
    obtain rfl | rfl : k = "types" ∨ k = "direction" := by simpa using h.1.known k hk
    · decide
    · decide

/-! ## Configurations -/

namespace PolicyConfig

theorem component_nodes : Component fields "nodes" NodeRule.decoder nodes where
  isField := by simp [fields]
  own := by simp +contextual [fields]
  other := by simp +contextual [fields]

theorem component_nodeProperties :
    Component fields "node_properties" PropertyRule.decoder nodeProperties where
  isField := by simp [fields]
  own := by simp +contextual [fields]
  other := by simp +contextual [fields]

theorem component_relationships :
    Component fields "relationships" RelationshipRule.decoder relationships where
  isField := by simp [fields]
  own := by simp +contextual [fields]
  other := by simp +contextual [fields]

theorem component_relationshipProperties :
    Component fields "relationship_properties" PropertyRule.decoder relationshipProperties where
  isField := by simp [fields]
  own := by simp +contextual [fields]
  other := by simp +contextual [fields]

theorem steady_fields : ∀ field ∈ fields, field.Steady := by
  simp [fields, steady_reading]

/-- **The objects that are read** are the grammatical ones. -/
theorem exists_decoder_iff {depth : Nat} {ms : List (String × Document)} :
    (∃ c, decoder (depth + 3) (Document.object ms).tree = .ok c) ↔ Grammatical ms := by
  rw [decoder, exists_readRecord_iff (by decide) steady_fields]
  simp only [fields, List.forall_mem_cons, name_reading, required_reading, accepts_reading,
    NodeRule.decoder_iff, PropertyRule.decoder_iff, RelationshipRule.decoder_iff]
  constructor
  · intro h
    obtain ⟨hkeys, ⟨hnodes, hnodeProperties, hrelationships, hrelationshipProperties, -⟩, -⟩ := h
    exact ⟨hkeys, hnodes, hnodeProperties, hrelationships, hrelationshipProperties⟩
  · intro h
    obtain ⟨hkeys, hnodes, hnodeProperties, hrelationships, hrelationshipProperties⟩ := h
    exact ⟨hkeys, ⟨hnodes, hnodeProperties, hrelationships, hrelationshipProperties, nofun⟩,
      by simp⟩

/-- An object states one configuration at most. -/
theorem StatedBy.unique {ms : List (String × Document)} {c c' : PolicyConfig}
    (h : StatedBy ms c) (h' : StatedBy ms c') : c = c' := by
  have hnodes : c.nodes = c'.nodes :=
    h.nodes.unique h'.nodes h.keys fun _ =>
      eq_of_read_iff fun _ => NodeRule.decoder_iff 0
  have hnodeProperties : c.nodeProperties = c'.nodeProperties :=
    h.nodeProperties.unique h'.nodeProperties h.keys fun _ =>
      eq_of_read_iff fun _ => PropertyRule.decoder_iff 0
  have hrelationships : c.relationships = c'.relationships :=
    h.relationships.unique h'.relationships h.keys fun _ =>
      eq_of_read_iff fun _ => RelationshipRule.decoder_iff 0
  have hrelationshipProperties : c.relationshipProperties = c'.relationshipProperties :=
    h.relationshipProperties.unique h'.relationshipProperties h.keys fun _ =>
      eq_of_read_iff fun _ => PropertyRule.decoder_iff 0
  cases c
  cases c'
  simp_all

/-- A stated configuration is grammatical. -/
theorem StatedBy.grammatical {ms : List (String × Document)} {c : PolicyConfig}
    (h : StatedBy ms c) : Grammatical ms where
  keys := h.keys
  nodes := fun _ hd => ⟨_, h.nodes.of_mem h.keys hd⟩
  nodeProperties := fun _ hd => ⟨_, h.nodeProperties.of_mem h.keys hd⟩
  relationships := fun _ hd => ⟨_, h.relationships.of_mem h.keys hd⟩
  relationshipProperties := fun _ hd => ⟨_, h.relationshipProperties.of_mem h.keys hd⟩

theorem StatedBy.perm {ms ms' : List (String × Document)} {c : PolicyConfig} (h : StatedBy ms c)
    (hperm : ms.Perm ms') : StatedBy ms' c where
  keys := h.keys.perm hperm
  nodes := h.nodes.perm hperm
  nodeProperties := h.nodeProperties.perm hperm
  relationships := h.relationships.perm hperm
  relationshipProperties := h.relationshipProperties.perm hperm

/-- **A configuration is read from the objects that state it.** -/
theorem decoder_iff {depth : Nat} {ms : List (String × Document)} {c : PolicyConfig} :
    decoder (depth + 3) (Document.object ms).tree = .ok c ↔ StatedBy ms c := by
  have hread : ∀ c, decoder (depth + 3) (Document.object ms).tree = .ok c → StatedBy ms c := by
    intro c hc
    have hgrammatical := exists_decoder_iff.1 ⟨c, hc⟩
    exact {
      keys := hgrammatical.keys
      nodes := component_nodes.memberStates (fun _ _ => (NodeRule.decoder_iff depth).1) hc
      nodeProperties :=
        component_nodeProperties.memberStates (fun _ _ => (PropertyRule.decoder_iff depth).1) hc
      relationships :=
        component_relationships.memberStates (fun _ _ => (RelationshipRule.decoder_iff depth).1) hc
      relationshipProperties :=
        component_relationshipProperties.memberStates
          (fun _ _ => (PropertyRule.decoder_iff depth).1) hc }
  constructor
  · exact hread c
  · intro hstated
    obtain ⟨c', hc'⟩ := exists_decoder_iff.2 hstated.grammatical
    rw [hc', hstated.unique (hread c' hc')]

/-- **A text that spells an object is a configuration just if the object is grammatical**, however
it is spelled.  The configuration is the one that the members state, in whatever order they stand,
and every other object is refused. -/
theorem ofText_iff_statedBy {ms : List (String × Document)} {text : String}
    (h : SpellsPadded (.object ms) text.toList) :
    ((∃ c, ofText text = .ok c) ↔ Grammatical ms) ∧
      (∀ c, ofText text = .ok c ↔ StatedBy ms c) ∧
      (∀ (ms' : List (String × Document)) (text' : String),
        SpellsPadded (.object ms') text'.toList → ms.Perm ms' →
          ∀ c, ofText text = .ok c → ofText text' = .ok c) ∧
      (¬ Grammatical ms → ∃ fault, ofText text = .error fault) := by
  have htree : ∀ {ms : List (String × Document)} {text : String},
      SpellsPadded (.object ms) text.toList →
        ofText text = decoder (124 + 3) (Document.object ms).tree :=
    fun h => decodeText_of_spells decoder h
  have hstated : ∀ c, ofText text = .ok c ↔ StatedBy ms c := by
    intro c
    rw [htree h, decoder_iff]
  have hgrammatical : (∃ c, ofText text = .ok c) ↔ Grammatical ms := by
    rw [htree h, exists_decoder_iff]
  refine ⟨hgrammatical, hstated, ?_, ?_⟩
  · intro ms' text' h' hperm c hc
    rw [htree h', decoder_iff]
    exact ((hstated c).1 hc).perm hperm
  · intro hno
    cases hread : ofText text with
    | ok c => exact absurd (hgrammatical.1 ⟨c, hread⟩) hno
    | error fault => exact ⟨fault, rfl⟩

/-- The rule of the relationships that lead to a node and are of one type. -/
def incomingRule : Document :=
  .object [("direction", .object [("Incoming", .null)]), ("types", .strings ["KNOWS"])]

/-- Two sections in an order of their own. -/
def mixedMembers : List (String × Document) :=
  [("relationships", incomingRule), ("nodes", .string "none")]

/-- A text of these members, with blanks and an escape in a key. -/
def mixedText : String :=
  "\n\x7b \"relationships\":" ++
    "\x7b\"direction\":\x7b\"Incoming\":null\x7d,\"types\":[\"KNOWS\"]\x7d" ++
    ",\t\"nod\\u0065s\" :\"none\"\x7d "

theorem spells_mixedText : SpellsPadded (.object mixedMembers) mixedText.toList := by
  have hkey : SpellsString "nodes" "\"nod\\u0065s\"".toList := by
    refine .quoted (s := ['n', 'o', 'd', '\\', 'u', '0', '0', '6', '5', 's']) ?_
    refine .cons (s := ['n']) (.plain (by decide) (by decide) (by decide)) ?_
    refine .cons (s := ['o']) (.plain (by decide) (by decide) (by decide)) ?_
    refine .cons (s := ['d']) (.plain (by decide) (by decide) (by decide)) ?_
    have hzero : SpellsHex 0 '0' := ⟨by decide, Or.inl rfl⟩
    have hunit : SpellsUnit 'e'.toNat ['\\', 'u', '0', '0', '6', '5'] :=
      .digits hzero hzero (k := 6) ⟨by decide, Or.inl rfl⟩ (l := 5) ⟨by decide, Or.inl rfl⟩
    refine .cons (.unit hunit) ?_
    exact .cons (s := ['s']) (.plain (by decide) (by decide) (by decide)) .nil
  have hblank : ∀ c : Char, c = ' ' ∨ c = '\t' ∨ c = '\n' ∨ c = '\r' → Blanks [c] := by
    intro c hc d hd
    rwa [List.mem_singleton.1 hd]
  have hnodes := SpellsMembers.one (hblank '\t' (by decide)) hkey (hblank ' ' (by decide))
    (Document.spells_chars (.string "none")).padded
  have hmembers := SpellsMembers.more (hblank ' ' (by decide))
    (spellsString_stringChars "relationships") blanks_nil incomingRule.spells_chars.padded hnodes
  have hspells := SpellsPadded.around (hblank '\n' (by decide)) (.object hmembers)
    (hblank ' ' (by decide))
  exact hspells

theorem statedBy_mixedMembers :
    StatedBy mixedMembers
      { nodes := .preset .none, relationships := .types ["KNOWS"] .incoming } := by
  have hrule : RelationshipRule.StatedBy incomingRule (.types ["KNOWS"] .incoming) := by
    refine .object ⟨⟨by decide, by decide⟩, _, _, ?_, Or.inl ⟨_, List.mem_cons_self, ?_⟩, rfl⟩
    · exact List.mem_cons_of_mem _ List.mem_cons_self
    · exact ⟨"Incoming", by decide, Or.inr rfl⟩
  exact {
    keys := ⟨by decide, by decide⟩
    nodes := Or.inl ⟨_, List.mem_cons_of_mem _ List.mem_cons_self,
      .preset ⟨"none", by decide, Or.inl rfl⟩⟩
    nodeProperties := Or.inr ⟨by decide, rfl⟩
    relationships := Or.inl ⟨_, List.mem_cons_self, hrule⟩
    relationshipProperties := Or.inr ⟨by decide, rfl⟩ }

theorem ofText_mixedText :
    SpellsPadded (.object mixedMembers) mixedText.toList ∧
      ofText mixedText =
        .ok { nodes := .preset .none, relationships := .types ["KNOWS"] .incoming } :=
  ⟨spells_mixedText, ((ofText_iff_statedBy spells_mixedText).2.1 _).2 statedBy_mixedMembers⟩

end PolicyConfig

end PropertyGraph
