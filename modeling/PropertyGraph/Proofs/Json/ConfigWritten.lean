import PropertyGraph.Proofs.Json.ConfigText

/-!
# Configurations are read back from JSON

A rule is written without a word on which kind of rule it is: a preset as its name, and a list of
names as an object whose key tells what they are names of.  Nothing is lost by that, whatever the
names are.  A preset is a string and a list never is one, so a list of the name `all` is still a
list.  A direction is always written, the one that is meant by its absence too.

Writing and reading meet in the middle: what is written states the configuration, and what states a
configuration is read as it.

* `NodeRule.statedBy_document`, `RelationshipRule.statedBy_document`,
  `PropertyRule.statedBy_document` — what is written for a rule states that rule;
* `PolicyConfig.statedBy_members` — the same for the four sections together;
* `PolicyConfig.read_back_and_built_alike` — a configuration comes back from its text, and its
  bundle with it.
-/

namespace PropertyGraph

open Json

/-! ## What is written states what was meant -/

theorem Preset.chooses_document (p : Preset) : p.document.Chooses Preset.choices p := by
  cases p with
  | all => exact ⟨"all", by decide, Or.inl rfl⟩
  | none => exact ⟨"none", by decide, Or.inl rfl⟩

theorem Direction.chooses_document (direction : Direction) :
    direction.document.Chooses Direction.choices direction := by
  cases direction with
  | outgoing => exact ⟨"Outgoing", by decide, Or.inl rfl⟩
  | incoming => exact ⟨"Incoming", by decide, Or.inl rfl⟩
  | both => exact ⟨"Both", by decide, Or.inl rfl⟩

/-- A list of names under its key alone. -/
theorem statesNames_singleton {ρ : Type} (key : String) (make : List String → ρ)
    (names : List String) : StatesNames key make [(key, .strings names)] (make names) :=
  ⟨⟨List.nodup_singleton key, by simp⟩, names, List.mem_singleton_self _, rfl⟩

theorem NodeRule.statedBy_document (rule : NodeRule) :
    NodeRule.StatedBy rule.document rule := by
  cases rule with
  | preset p => exact .preset p.chooses_document
  | labels names => exact .object (statesNames_singleton "labels" NodeRule.labels names)

theorem PropertyRule.statedBy_document (rule : PropertyRule) :
    PropertyRule.StatedBy rule.document rule := by
  cases rule with
  | preset p => exact .preset p.chooses_document
  | keys names => exact .object (statesNames_singleton "keys" PropertyRule.keys names)

theorem RelationshipRule.statedBy_document (rule : RelationshipRule) :
    RelationshipRule.StatedBy rule.document rule := by
  cases rule with
  | preset p => exact .preset p.chooses_document
  | types names direction =>
    have hkeys : KeyedBy ["types", "direction"]
        [("types", .strings names), ("direction", direction.document)] :=
      ⟨by simp, by simp⟩
    have hdirection : MemberStates (Document.Chooses Direction.choices) .both
        [("types", .strings names), ("direction", direction.document)] "direction" direction :=
      Or.inl ⟨_, by simp, direction.chooses_document⟩
    exact .object ⟨hkeys, names, direction, List.mem_cons_self, hdirection, rfl⟩

namespace PolicyConfig

/-- The members that are written for a configuration. -/
def members (c : PolicyConfig) : List (String × Document) :=
  [("nodes", c.nodes.document), ("node_properties", c.nodeProperties.document),
    ("relationships", c.relationships.document),
    ("relationship_properties", c.relationshipProperties.document)]

theorem document_eq (c : PolicyConfig) : c.document = .object c.members := rfl

/-- **What is written for a configuration states it.** -/
theorem statedBy_members (c : PolicyConfig) : StatedBy c.members c where
  keys := ⟨by simp [members], by simp [members, sections]⟩
  nodes := Or.inl ⟨_, by simp [members], c.nodes.statedBy_document⟩
  nodeProperties := Or.inl ⟨_, by simp [members], c.nodeProperties.statedBy_document⟩
  relationships := Or.inl ⟨_, by simp [members], c.relationships.statedBy_document⟩
  relationshipProperties :=
    Or.inl ⟨_, by simp [members], c.relationshipProperties.statedBy_document⟩

end PolicyConfig

/-! ## What is built -/

/-- Two bundles give the same answer to every question. -/
structure PolicyBundle.SameAnswers (b b' : PolicyBundle) : Prop where
  nodes : ∀ n, b.nodes.includes n = b'.nodes.includes n
  nodeProperties : ∀ key n, b.nodeProperties.includes key n = b'.nodeProperties.includes key n
  relationships : ∀ r, b.relationships.includes r = b'.relationships.includes r
  relationshipsFrom : ∀ r pointOfView,
    b.relationships.includesFrom r pointOfView = b'.relationships.includesFrom r pointOfView
  relationshipProperties : ∀ key r,
    b.relationshipProperties.includes key r = b'.relationshipProperties.includes key r

theorem PolicyBundle.SameAnswers.refl (b : PolicyBundle) : b.SameAnswers b where
  nodes := fun _ => rfl
  nodeProperties := fun _ _ => rfl
  relationships := fun _ => rfl
  relationshipsFrom := fun _ _ => rfl
  relationshipProperties := fun _ _ => rfl

namespace PolicyConfig

/-- Two configurations are refused for the same reason, or give bundles with the same answers. -/
inductive BuildsLike (c c' : PolicyConfig) : Prop
  | refused {e : Error} : c.build = .error e → c'.build = .error e → BuildsLike c c'
  | built {b b' : PolicyBundle} :
      c.build = .ok b → c'.build = .ok b' → b.SameAnswers b' → BuildsLike c c'

theorem BuildsLike.refl (c : PolicyConfig) : c.BuildsLike c := by
  cases h : c.build with
  | error e => exact .refused h h
  | ok b => exact .built h h (.refl b)

/-- **A configuration comes back from the text that it is written as**, whatever names it lists.
Hence what is read there is refused for the same reason as the configuration itself, or it is built
into a bundle that gives the same answers. -/
theorem read_back_and_built_alike (c : PolicyConfig) :
    ofText c.document.text = .ok c ∧
      ∃ reread, ofText c.document.text = .ok reread ∧ reread.BuildsLike c := by
  have hread : ofText c.document.text = .ok c := by
    rw [ofText, decodeText_text, document_eq]
    exact decoder_iff.2 c.statedBy_members
  exact ⟨hread, c, hread, .refl c⟩

/-- Names that look like presets, the empty name, and a direction that need not be written. -/
example :
    (PolicyConfig.document
      { nodes := .labels ["all", ""], relationships := .types [] .both }).text =
      "\x7b\"nodes\":\x7b\"labels\":[\"all\",\"\"]\x7d,\"node_properties\":\"all\"," ++
        "\"relationships\":\x7b\"types\":[],\"direction\":\"Both\"\x7d," ++
        "\"relationship_properties\":\"all\"\x7d" := by
  decide +kernel

end PolicyConfig

end PropertyGraph
