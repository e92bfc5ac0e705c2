import PropertyGraph.Policy.Config

/-!
# A bundle does what its configuration says

What a rule says is plain: a preset admits everything or nothing, a list of labels or types admits
the elements that carry one of them and everything if it is empty, and a list of keys admits these
keys alone.  What a bundle does goes through name sets and four policies that are built one after
the other, and it cannot be built at all if a name is empty.

* `NodeRule.build_eq`, `RelationshipRule.build_eq`, `PropertyRule.build_eq` — a rule becomes its
  policy unless it lists the empty name;
* `PolicyConfig.build_eq` — a configuration becomes its bundle unless one of its listings offends,
  and then the first one that does is reported;
* `NodeRule.policy_includes`, `RelationshipRule.policy_includes`,
  `RelationshipRule.policy_includesFrom`, `PropertyRule.policy_includes` — the answers of the policies
  are those of the rules;
* `PolicyConfig.build_follows_config` — all of this for the bundle.
-/

namespace PropertyGraph

/-! ## What rules say -/

/-- Whether two lists name the same, in whatever order and however often. -/
def SameNames (l m : List String) : Prop := ∀ name, name ∈ l ↔ name ∈ m

theorem SameNames.ofList_eq {l m : List String} (h : SameNames l m) :
    OrderedSet.ofList l = OrderedSet.ofList m :=
  OrderedSet.ext_mem fun name => by rw [OrderedSet.mem_ofList, OrderedSet.mem_ofList, h name]

namespace NodeRule

/-- The names that the rule lists. -/
def names : NodeRule → List String
  | .preset _ => []
  | .labels names => names

/-- Whether the rule admits a node. -/
def Admits : NodeRule → Node → Prop
  | .preset .all, _ => True
  | .preset .none, _ => False
  | .labels names, n => names = [] ∨ ∃ label ∈ names, label ∈ n.labels

/-- The rules are the same up to the order and the repetition of names. -/
def Alike : NodeRule → NodeRule → Prop
  | .preset p, .preset q => p = q
  | .labels l, .labels m => SameNames l m
  | _, _ => False

end NodeRule

namespace RelationshipRule

/-- The names that the rule lists. -/
def names : RelationshipRule → List String
  | .preset _ => []
  | .types names _ => names

/-- Whether the rule admits a relationship. -/
def Admits : RelationshipRule → Relationship → Prop
  | .preset .all, _ => True
  | .preset .none, _ => False
  | .types names _, r => names = [] ∨ r.type ∈ names

/-- Whether a relationship leads away from a node, or to it, as the direction asks. -/
def LeadsFrom (r : Relationship) (pointOfView : NodeId) (direction : Direction) : Prop :=
  (pointOfView = r.source ∧ (direction = .outgoing ∨ direction = .both)) ∨
    (pointOfView = r.target ∧ (direction = .incoming ∨ direction = .both))

/-- Whether the rule admits a relationship that is reached from a node. -/
def AdmitsFrom : RelationshipRule → Relationship → NodeId → Prop
  | .preset .all, _, _ => True
  | .preset .none, _, _ => False
  | .types names direction, r, pointOfView =>
    (names = [] ∨ r.type ∈ names) ∧ LeadsFrom r pointOfView direction

/-- The rules are the same up to the order and the repetition of names. -/
def Alike : RelationshipRule → RelationshipRule → Prop
  | .preset p, .preset q => p = q
  | .types l d, .types m e => SameNames l m ∧ d = e
  | _, _ => False

end RelationshipRule

namespace PropertyRule

/-- The names that the rule lists. -/
def names : PropertyRule → List String
  | .preset _ => []
  | .keys names => names

/-- Whether the rule admits a key. -/
def Admits : PropertyRule → String → Prop
  | .preset .all, _ => True
  | .preset .none, _ => False
  | .keys names, key => key ∈ names

/-- The rules are the same up to the order and the repetition of names. -/
def Alike : PropertyRule → PropertyRule → Prop
  | .preset p, .preset q => p = q
  | .keys l, .keys m => SameNames l m
  | _, _ => False

end PropertyRule

/-- Names that are listed for one section, and what they are names of. -/
structure Listing where
  what : NameKind
  names : List String

/-- The listings of a configuration, in the order in which its sections are built. -/
def PolicyConfig.listings (c : PolicyConfig) : List Listing :=
  [⟨.label, c.nodes.names⟩, ⟨.relationshipType, c.relationships.names⟩,
    ⟨.propertyKey, c.nodeProperties.names⟩, ⟨.propertyKey, c.relationshipProperties.names⟩]

/-- Whether the empty name is listed. -/
def Listing.offends (l : Listing) : Bool := "" ∈ l.names

/-- A bundle gives the answers of a configuration. -/
structure PolicyBundle.Follows (b : PolicyBundle) (c : PolicyConfig) : Prop where
  nodes : ∀ n, b.nodes.includes n = true ↔ c.nodes.Admits n
  relationships : ∀ r, b.relationships.includes r = true ↔ c.relationships.Admits r
  relationshipsFrom : ∀ r pointOfView,
    b.relationships.includesFrom r pointOfView = true ↔ c.relationships.AdmitsFrom r pointOfView
  nodeProperties : ∀ key n, b.nodeProperties.includes key n = true ↔ c.nodeProperties.Admits key
  relationshipProperties : ∀ key r,
    b.relationshipProperties.includes key r = true ↔ c.relationshipProperties.Admits key

/-- Two bundles give the same answers in every section where the rules of two configurations are
alike, whatever the other sections say and, for a property, whatever element holds it. -/
structure PolicyBundle.AgreesBySection (b b' : PolicyBundle) (c c' : PolicyConfig) : Prop where
  nodes : c.nodes.Alike c'.nodes → ∀ n, b.nodes.includes n = b'.nodes.includes n
  relationships : c.relationships.Alike c'.relationships →
    ∀ r, b.relationships.includes r = b'.relationships.includes r
  relationshipsFrom : c.relationships.Alike c'.relationships →
    ∀ r pointOfView,
      b.relationships.includesFrom r pointOfView = b'.relationships.includesFrom r pointOfView
  nodeProperties : c.nodeProperties.Alike c'.nodeProperties →
    ∀ key n n', b.nodeProperties.includes key n = b'.nodeProperties.includes key n'
  relationshipProperties : c.relationshipProperties.Alike c'.relationshipProperties →
    ∀ key r r',
      b.relationshipProperties.includes key r = b'.relationshipProperties.includes key r'

/-! ## What policies do -/

/-- A node sees a relationship in a direction iff it is an end of it on the right side. -/
theorem seenFrom_iff (direction : Direction) (r : Relationship) (pointOfView : NodeId) :
    RelationshipPolicy.seenFrom direction r pointOfView = true ↔
      RelationshipRule.LeadsFrom r pointOfView direction := by
  rw [RelationshipRule.LeadsFrom, eq_comm (a := pointOfView), eq_comm (a := pointOfView)]
  by_cases hsource : r.source = pointOfView <;> by_cases htarget : r.target = pointOfView <;>
    cases direction <;>
    simp [RelationshipPolicy.seenFrom, Relationship.directionFrom, Direction.admits, hsource,
      htarget]

namespace NodeRule

/-- The policy of the rule if it lists no empty name. -/
def policy : NodeRule → NodePolicy
  | .preset .all => .all
  | .preset .none => .none
  | .labels names => .labels (.ofList names)

theorem build_eq (rule : NodeRule) :
    rule.build = if "" ∈ rule.names then .error (.emptyName .label) else .ok rule.policy := by
  cases rule with
  | preset p => cases p <;> rfl
  | labels names => exact map_nameSet NodePolicy.labels .label names

theorem policy_includes (rule : NodeRule) (n : Node) :
    rule.policy.includes n = true ↔ rule.Admits n := by
  cases rule with
  | preset p => cases p <;> simp [policy, NodePolicy.includes, Admits]
  | labels names =>
    simp only [policy, NodePolicy.includes, Admits, Bool.or_eq_true, isEmpty_ofList,
      List.any_eq_true, Node.hasLabel, beq_iff_eq, exists_eq_right]
    exact or_congr_right (exists_congr fun label => and_congr_left'
      (OrderedSet.mem_ofList names label))

theorem policy_eq_of_alike {rule other : NodeRule} (h : rule.Alike other) :
    rule.policy = other.policy := by
  match rule, other, h with
  | .preset _, .preset _, rfl => rfl
  | .labels _, .labels _, h => rw [policy, policy, SameNames.ofList_eq h]

end NodeRule

namespace RelationshipRule

/-- The policy of the rule if it lists no empty name. -/
def policy : RelationshipRule → RelationshipPolicy
  | .preset .all => .all
  | .preset .none => .none
  | .types names direction => .types (.ofList names) direction

theorem build_eq (rule : RelationshipRule) :
    rule.build =
      if "" ∈ rule.names then .error (.emptyName .relationshipType) else .ok rule.policy := by
  cases rule with
  | preset p => cases p <;> rfl
  | types names direction => exact map_nameSet (RelationshipPolicy.types · direction) _ names

theorem hasType_ofList (names : List String) (r : Relationship) :
    RelationshipPolicy.hasType (.ofList names) r = true ↔ names = [] ∨ r.type ∈ names := by
  rw [RelationshipPolicy.hasType, Bool.or_eq_true, isEmpty_ofList, OrderedSet.contains_iff,
    OrderedSet.mem_ofList]

theorem policy_includes (rule : RelationshipRule) (r : Relationship) :
    rule.policy.includes r = true ↔ rule.Admits r := by
  cases rule with
  | preset p => cases p <;> simp [policy, RelationshipPolicy.includes, Admits]
  | types names direction =>
    rw [policy, RelationshipPolicy.includes, hasType_ofList, Admits]

theorem policy_includesFrom (rule : RelationshipRule) (r : Relationship) (pointOfView : NodeId) :
    rule.policy.includesFrom r pointOfView = true ↔ rule.AdmitsFrom r pointOfView := by
  cases rule with
  | preset p => cases p <;> simp [policy, RelationshipPolicy.includesFrom, AdmitsFrom]
  | types names direction =>
    rw [policy, RelationshipPolicy.includesFrom, Bool.and_eq_true, hasType_ofList, seenFrom_iff,
      AdmitsFrom]

theorem policy_eq_of_alike {rule other : RelationshipRule} (h : rule.Alike other) :
    rule.policy = other.policy := by
  match rule, other, h with
  | .preset _, .preset _, rfl => rfl
  | .types _ _, .types _ _, ⟨hnames, rfl⟩ => rw [policy, policy, SameNames.ofList_eq hnames]

end RelationshipRule

namespace PropertyRule

variable {ε : Type}

/-- The policy of the rule if it lists no empty name. -/
def policy : PropertyRule → PropertyPolicy ε
  | .preset .all => .all
  | .preset .none => .none
  | .keys names => .keys (.ofList names)

theorem build_eq (rule : PropertyRule) :
    (rule.build : Except Error (PropertyPolicy ε)) =
      if "" ∈ rule.names then .error (.emptyName .propertyKey) else .ok rule.policy := by
  cases rule with
  | preset p => cases p <;> rfl
  | keys names => exact map_nameSet PropertyPolicy.keys .propertyKey names

theorem policy_includes (rule : PropertyRule) (key : String) (element : ε) :
    rule.policy.includes key element = true ↔ rule.Admits key := by
  cases rule with
  | preset p => cases p <;> simp [policy, PropertyPolicy.includes, Admits]
  | keys names =>
    rw [policy, PropertyPolicy.includes, OrderedSet.contains_iff, OrderedSet.mem_ofList, Admits]

theorem policy_eq_of_alike {rule other : PropertyRule} (h : rule.Alike other) :
    (rule.policy : PropertyPolicy ε) = other.policy := by
  match rule, other, h with
  | .preset _, .preset _, rfl => rfl
  | .keys _, .keys _, h => rw [policy, policy, SameNames.ofList_eq h]

end PropertyRule

/-! ## Bundles -/

/-- What follows a check is done unless the check refuses. -/
theorem refused_or_bind {α β : Type} {p : Prop} [Decidable p] (e : Error) (a : α)
    (next : α → Except Error β) :
    ((if p then .error e else .ok a : Except Error α) >>= next) =
      if p then .error e else next a := by
  split <;> rfl

namespace PolicyConfig

/-- The bundle of a configuration that lists no empty name. -/
def bundle (c : PolicyConfig) : PolicyBundle :=
  ⟨c.nodes.policy, c.nodeProperties.policy, c.relationships.policy, c.relationshipProperties.policy⟩

theorem bundle_follows (c : PolicyConfig) : c.bundle.Follows c where
  nodes := c.nodes.policy_includes
  relationships := c.relationships.policy_includes
  relationshipsFrom := c.relationships.policy_includesFrom
  nodeProperties := c.nodeProperties.policy_includes
  relationshipProperties := c.relationshipProperties.policy_includes

/-- **The first listing that offends is reported**, and if there is none the bundle is built. -/
theorem build_eq (c : PolicyConfig) :
    c.build =
      match c.listings.find? Listing.offends with
      | some listing => .error (.emptyName listing.what)
      | none => .ok c.bundle := by
  simp only [build, NodeRule.build_eq, RelationshipRule.build_eq, PropertyRule.build_eq,
    refused_or_bind, listings, Listing.offends, List.find?_cons, List.find?_nil, bundle]
  by_cases hnodes : "" ∈ c.nodes.names
  · simp [hnodes]
  by_cases hrelationships : "" ∈ c.relationships.names
  · simp [hnodes, hrelationships]
  by_cases hnodeProperties : "" ∈ c.nodeProperties.names
  · simp [hnodes, hrelationships, hnodeProperties]
  by_cases hrelationshipProperties : "" ∈ c.relationshipProperties.names
  · simp [hnodes, hrelationships, hnodeProperties, hrelationshipProperties]
  · simp only [hnodes, hrelationships, hnodeProperties, hrelationshipProperties, if_false,
      decide_false]
    rfl

/-- Policies of like rules are the same. -/
theorem bundle_agrees (c c' : PolicyConfig) : c.bundle.AgreesBySection c'.bundle c c' where
  nodes := fun h n => by rw [bundle, bundle, NodeRule.policy_eq_of_alike h]
  relationships := fun h r => by rw [bundle, bundle, RelationshipRule.policy_eq_of_alike h]
  relationshipsFrom := fun h r pointOfView => by
    rw [bundle, bundle, RelationshipRule.policy_eq_of_alike h]
  nodeProperties := fun h key n n' => by
    rw [bundle, bundle, PropertyRule.policy_eq_of_alike h, Bool.eq_iff_iff,
      PropertyRule.policy_includes, PropertyRule.policy_includes]
  relationshipProperties := fun h key r r' => by
    rw [bundle, bundle, PropertyRule.policy_eq_of_alike h, Bool.eq_iff_iff,
      PropertyRule.policy_includes, PropertyRule.policy_includes]

/-- What is built is the bundle. -/
theorem eq_bundle_of_build {c : PolicyConfig} {b : PolicyBundle} (h : c.build = .ok b) :
    b = c.bundle := by
  rw [build_eq] at h
  split at h
  · cases h
  · exact (Except.ok.inj h).symm

/-- **A bundle is built unless a name is empty, and it gives the answers of its configuration.**
The first section with an empty name is reported, in the order nodes, relationships, properties of
nodes, properties of relationships.  An answer depends on the rule of its own section alone, neither
on the order and repetition of the names there nor, for a property, on the element that holds it. -/
theorem build_follows_config (c : PolicyConfig) :
    ((∃ e, c.build = .error e) ↔ ∃ listing ∈ c.listings, "" ∈ listing.names) ∧
      (∀ e, c.build = .error e →
        ∃ listing, c.listings.find? Listing.offends = some listing ∧
          e = .emptyName listing.what ∧ e.kind = .invalidArgument ∧
            e.detail = listing.what.text ++ " must not be empty") ∧
      (∀ b, c.build = .ok b → b.Follows c) ∧
      ∀ (c' : PolicyConfig) (b b' : PolicyBundle), c.build = .ok b → c'.build = .ok b' →
        b.AgreesBySection b' c c' := by
  have hbuild := c.build_eq
  refine ⟨?_, fun e he => ?_, fun b hb => ?_, fun c' b b' hb hb' => ?_⟩
  · have hoffends : (∃ listing ∈ c.listings, "" ∈ listing.names) ↔
        (c.listings.find? Listing.offends).isSome := by
      simp [List.find?_isSome, Listing.offends]
    rw [hbuild, hoffends]
    cases c.listings.find? Listing.offends <;> simp
  · rw [hbuild] at he
    cases hfind : c.listings.find? Listing.offends with
    | none => simp [hfind] at he
    | some listing =>
      simp only [hfind, Except.error.injEq] at he
      subst he
      exact ⟨listing, rfl, rfl, rfl, rfl⟩
  · rw [eq_bundle_of_build hb]
    exact c.bundle_follows
  · rw [eq_bundle_of_build hb, eq_bundle_of_build hb']
    exact c.bundle_agrees c'

/-- The types are looked at before the keys of nodes, whatever the order of the fields. -/
example :
    PolicyConfig.build
      { nodes := .labels ["Place"], nodeProperties := .keys [""],
        relationships := .types ["KNOWS", ""] .both } =
      .error (.emptyName .relationshipType) :=
  rfl

end PolicyConfig

end PropertyGraph
