import PropertyGraph.Proofs.Store.Numbering

/-!
# A store is what was written to it

The journal of a history lists the writes that succeeded: which elements were created, with what,
and which properties were set.  It does not say through which transaction a write went, nor how
that transaction ended.  What a store answers about an element can be read off the journal.

* `journaled_iff_succeeded` — the journals list every write that succeeded, and nothing else;
* `Follows` — how the look-ups of a kind of element follow from its journal;
* `follows_step`, `follows_run` — they do after every history;
* `replay_spec` — the accepted writes alone, through one transaction, lead to the same elements;
* `reads_follow_the_writes` — both facts together.
-/

namespace PropertyGraph

/-! ## Journals -/

/-- A write that succeeded, to an element of a kind: its creation, with all that stays as it is and
the first properties, or a property that was set. -/
inductive Change (ι χ : Type) where
  | created (id : ι) (head : χ) (properties : PropertyMap)
  | assigned (id : ι) (key : String) (value : Value)

namespace Change

variable {ι χ : Type}

/-- The element that was written to. -/
def id : Change ι χ → ι
  | .created id _ _ => id
  | .assigned id _ _ => id

/-- The value that is written to a property of an element. -/
def written? [DecidableEq ι] (id : ι) (key : String) : Change ι χ → Option Value
  | .created i _ properties => if i = id then properties.get? key else none
  | .assigned i k value => if i = id ∧ k = key then some value else none

/-- The value that was written last to a property of an element. -/
def lastWritten [DecidableEq ι] (log : List (Change ι χ)) (id : ι) (key : String) : Option Value :=
  log.reverse.findSome? (written? id key)

theorem written?_of_ne [DecidableEq ι] {id : ι} {key : String} {change : Change ι χ}
    (h : change.id ≠ id) : change.written? id key = none := by
  cases change with
  | created i head properties => exact if_neg h
  | assigned i k value => exact if_neg fun hik => h hik.1

theorem lastWritten_concat [DecidableEq ι] (log : List (Change ι χ)) (change : Change ι χ) (id : ι)
    (key : String) :
    lastWritten (log ++ [change]) id key = (change.written? id key).or (lastWritten log id key) := by
  cases h : change.written? id key <;> simp [lastWritten, h]

/-- Nothing was written to what was not written to. -/
theorem lastWritten_eq_none [DecidableEq ι] {log : List (Change ι χ)} {id : ι}
    (h : ∀ change ∈ log, change.id ≠ id) (key : String) : lastWritten log id key = none := by
  unfold lastWritten
  rw [List.findSome?_eq_none_iff]
  intro change hchange
  exact written?_of_ne (h change (List.mem_reverse.1 hchange))

end Change

/-- What stays of a relationship as it was created: its source, its target and its type. -/
def Relationship.head (r : Relationship) : NodeId × NodeId × String := (r.source, r.target, r.type)

namespace Event

/-- The change to a node that the event made. -/
def nodeChange? (event : Event) : Option (Change NodeId (List String)) :=
  match event.answer, event.op with
  | .ok (.createdNode id), .createNode _ labels properties => some (.created id labels properties)
  | .ok .done, .setNodeProperty _ id key value => some (.assigned id key value)
  | _, _ => none

/-- The change to a relationship that the event made. -/
def relationshipChange? (event : Event) :
    Option (Change RelationshipId (NodeId × NodeId × String)) :=
  match event.answer, event.op with
  | .ok (.createdRelationship id), .createRelationship _ source target type properties =>
    some (.created id (source, target, type) properties)
  | .ok .done, .setRelationshipProperty _ id key value => some (.assigned id key value)
  | _, _ => none

end Event

/-- The changes to nodes, in order. -/
def nodeJournal (events : List Event) : List (Change NodeId (List String)) :=
  events.filterMap Event.nodeChange?

/-- The changes to relationships, in order. -/
def relationshipJournal (events : List Event) :
    List (Change RelationshipId (NodeId × NodeId × String)) :=
  events.filterMap Event.relationshipChange?

theorem nodeJournal_concat (events : List Event) (event : Event) :
    nodeJournal (events ++ [event]) = nodeJournal events ++ event.nodeChange?.toList :=
  filterMap_concat _ events event

theorem relationshipJournal_concat (events : List Event) (event : Event) :
    relationshipJournal (events ++ [event]) =
      relationshipJournal events ++ event.relationshipChange?.toList :=
  filterMap_concat _ events event

/-- **The journals list the writes that succeeded**, each of them and nothing else. -/
theorem journaled_iff_succeeded {s : Store} {history : List Operation} {event : Event}
    (h : event ∈ s.trace history) :
    event.nodeChange? ≠ none ∨ event.relationshipChange? ≠ none ↔
      event.succeeded = true ∧ event.op.isWrite = true := by
  obtain ⟨op, answer⟩ := event
  cases answer with
  | error cause => simp [Event.nodeChange?, Event.relationshipChange?, Event.succeeded]
  | ok reply =>
    cases Store.answers_of_mem_trace h rfl with
    | other reply quiet old =>
      cases op with
      | createNode | createRelationship | setNodeProperty | setRelationshipProperty => cases quiet
      | _ => cases reply <;> simp [Event.nodeChange?, Event.relationshipChange?, Operation.isWrite]
    | _ =>
      simp [Event.nodeChange?, Event.relationshipChange?, Event.succeeded, Operation.isWrite]

/-! ## One kind of element -/

/-- What can be looked up follows from the journal: there are the elements that were created, with
the ids and heads they were created with, and every property has the value that was written last. -/
structure Follows {ι χ η : Type} [DecidableEq ι] (log : List (Change ι χ)) (find : ι → Option η)
    (idOf : η → ι) (headOf : η → χ) (propertiesOf : η → PropertyMap) : Prop where
  found_iff : ∀ id, find id ≠ none ↔ ∃ head properties, Change.created id head properties ∈ log
  own : ∀ id e, find id = some e → idOf e = id
  head : ∀ id e, find id = some e → ∀ head properties,
    Change.created id head properties ∈ log → headOf e = head
  value : ∀ id e, find id = some e → ∀ key,
    (propertiesOf e).get? key = Change.lastWritten log id key
  known : ∀ change ∈ log, find change.id ≠ none

namespace Follows

variable {ι χ η : Type} [Ord ι] [DecidableEq ι] [Std.TransOrd ι] [Std.LawfulEqOrd ι]
  {log : List (Change ι χ)} {table : OrderedMap ι η} {idOf : η → ι} {headOf : η → χ}
  {propertiesOf : η → PropertyMap}

theorem known_concat (h : ∀ change ∈ log, table.get? change.id ≠ none) (latest : Change ι χ)
    (e : η) :
    ∀ change ∈ log ++ [latest], (table.insert latest.id e).get? change.id ≠ none := by
  intro change hchange
  rcases List.mem_append.1 hchange with hold | hnew
  · exact OrderedMap.get?_insert_ne_none _ _ (h change hold)
  · cases List.mem_singleton.1 hnew
    simp [OrderedMap.get?_insert]

/-- Creating an element under an id that is not in use. -/
theorem create (h : Follows log table.get? idOf headOf propertiesOf) {e : η}
    (fresh : table.get? (idOf e) = none) :
    Follows (log ++ [.created (idOf e) (headOf e) (propertiesOf e)])
      (table.insert (idOf e) e).get? idOf headOf propertiesOf := by
  -- So far only elements that are there were written to, and the new one is not.
  have hunknown : ∀ change ∈ log, change.id ≠ idOf e := by
    intro change hchange heq
    exact h.known change hchange (heq ▸ fresh)
  have hother : ∀ id w, table.get? id = some w → idOf e ≠ id := by
    intro id w hw heq
    rw [← heq, fresh] at hw
    cases hw
  refine
    { found_iff := ?found_iff
      own := OrderedMap.forall_get?_insert h.own rfl
      head := OrderedMap.forall_get?_insert ?oldHead ?newHead
      value := OrderedMap.forall_get?_insert ?oldValue ?newValue
      known := known_concat h.known _ _ }
  case found_iff =>
    intro id
    rw [OrderedMap.get?_insert]
    by_cases hid : id = idOf e
    · simp only [if_pos hid]
      exact ⟨fun _ => ⟨headOf e, propertiesOf e, by simp [hid]⟩, fun _ => Option.some_ne_none e⟩
    · rw [if_neg hid, h.found_iff]
      simp [hid]
  case oldHead =>
    intro id w hw head properties hmem
    have hne := (hother id w hw).symm
    exact h.head id w hw head properties (by simpa [hne] using hmem)
  case newHead =>
    intro head properties hmem
    rcases List.mem_append.1 hmem with hold | hnew
    · exact absurd rfl (hunknown _ hold)
    · cases List.mem_singleton.1 hnew
      rfl
  case oldValue =>
    intro id w hw key
    have hnone : (Change.created (idOf e) (headOf e) (propertiesOf e)).written? id key = none :=
      Change.written?_of_ne (hother id w hw)
    rw [Change.lastWritten_concat, hnone, Option.none_or]
    exact h.value id w hw key
  case newValue =>
    intro key
    rw [Change.lastWritten_concat, Change.lastWritten_eq_none hunknown, Option.or_none]
    exact (if_pos rfl).symm

/-- Setting a property of an element that is there. -/
theorem assign (h : Follows log table.get? idOf headOf propertiesOf) {id : ι} {e e' : η}
    {key : String} {value : Value} (found : table.get? id = some e) (hid : idOf e' = idOf e)
    (hhead : headOf e' = headOf e)
    (hproperties : propertiesOf e' = (propertiesOf e).insert key value) :
    Follows (log ++ [.assigned id key value]) (table.insert id e').get? idOf headOf
      propertiesOf := by
  -- Setting a property creates nothing.
  have hcreated : ∀ i head properties,
      Change.created i head properties ∈ log ++ [.assigned id key value] ↔
        Change.created i head properties ∈ log := by
    simp
  refine
    { found_iff := ?found_iff
      own := OrderedMap.forall_get?_insert h.own (hid.trans (h.own id e found))
      head := OrderedMap.forall_get?_insert ?oldHead ?newHead
      value := ?value
      known := known_concat h.known _ _ }
  case found_iff =>
    intro i
    rw [OrderedMap.get?_insert]
    simp only [hcreated, ← h.found_iff]
    by_cases hi : i = id
    · simp [hi, found]
    · rw [if_neg hi]
  case oldHead =>
    simp only [hcreated]
    exact h.head
  case newHead =>
    intro head properties hmem
    rw [hhead]
    exact h.head id e found head properties ((hcreated _ _ _).1 hmem)
  case value =>
    intro i w hw k
    rw [OrderedMap.get?_insert] at hw
    rw [Change.lastWritten_concat]
    by_cases hi : i = id
    · rw [if_pos hi] at hw
      cases hw
      subst hi
      rw [hproperties, OrderedMap.get?_insert, h.value i e found k]
      by_cases hk : k = key
      · simp [Change.written?, hk]
      · simp [Change.written?, hk, Ne.symm hk]
    · rw [if_neg hi] at hw
      have hnone : (Change.assigned id key value : Change ι χ).written? i k = none :=
        Change.written?_of_ne (Ne.symm hi)
      rw [hnone, Option.none_or]
      exact h.value i w hw k

end Follows

/-! ## The whole store -/

namespace Store

/-- What can be looked up in a store follows from the journals of these events. -/
structure FollowsJournals (events : List Event) (s : Store) : Prop where
  nodes : Follows (nodeJournal events) s.nodes.get? Node.id Node.labels Node.properties
  relationships : Follows (relationshipJournal events) s.relationships.get? Relationship.id
    Relationship.head Relationship.properties

variable {events : List Event} {s t u : Store} {op : Operation} {answer : Except Error Reply}
  {reply : Reply}

theorem followsJournals_empty : FollowsJournals [] empty where
  nodes := ⟨by simp [empty, nodeJournal], nofun, nofun, nofun, nofun⟩
  relationships := ⟨by simp [empty, relationshipJournal], nofun, nofun, nofun, nofun⟩

/-- An event that changes nothing leaves the journals as they are. -/
theorem FollowsJournals.quiet {event : Event} (h : FollowsJournals events s)
    (hnode : event.nodeChange? = none) (hrelationship : event.relationshipChange? = none) :
    FollowsJournals (events ++ [event]) s := by
  obtain ⟨hnodes, hrelationships⟩ := h
  refine ⟨?_, ?_⟩
  · simpa [nodeJournal_concat, hnode] using hnodes
  · simpa [relationshipJournal_concat, hrelationship] using hrelationships

/-- **Every step writes what its event says, and nothing else.** -/
theorem FollowsJournals.step (h : FollowsJournals events s) (horder : Orderly events s)
    (hstep : s.Step op answer t) (room : NumbersSuffice (events ++ [⟨op, answer⟩])) :
    FollowsJournals (events ++ [⟨op, answer⟩]) t := by
  cases hstep with
  | begin mode => exact FollowsJournals.quiet ⟨h.nodes, h.relationships⟩ rfl rfl
  | @createNode tx labels properties writable =>
    have hroom := room.nodes
    rw [createdNodes_concat] at hroom
    have hfresh := horder.nodes.get?_next hroom
    refine ⟨?_, ?_⟩
    · rw [nodeJournal_concat]
      exact Follows.create (e := ⟨⟨s.nodesCreated + 1⟩, labels, properties⟩) h.nodes hfresh
    · simpa [relationshipJournal_concat, Event.relationshipChange?] using h.relationships
  | @createRelationship tx source target type properties writable typed hasSource hasTarget =>
    have hroom := room.relationships
    rw [createdRelationships_concat] at hroom
    have hfresh := horder.relationships.get?_next hroom
    refine ⟨?_, ?_⟩
    · simpa [nodeJournal_concat, Event.nodeChange?] using h.nodes
    · rw [relationshipJournal_concat]
      exact Follows.create (e := ⟨⟨s.relationshipsCreated + 1⟩, source, target, type, properties⟩)
        h.relationships hfresh
  | setNodeProperty key value writable found =>
    refine ⟨?_, ?_⟩
    · rw [nodeJournal_concat]
      exact h.nodes.assign found rfl rfl rfl
    · simpa [relationshipJournal_concat, Event.relationshipChange?] using h.relationships
  | setRelationshipProperty key value writable found =>
    refine ⟨?_, ?_⟩
    · simpa [nodeJournal_concat, Event.nodeChange?] using h.nodes
    · rw [relationshipJournal_concat]
      exact h.relationships.assign found rfl rfl rfl
  | refuse cause objected => exact h.quiet rfl rfl
  | pass reply quiet old =>
    refine h.quiet ?_ ?_ <;> cases op <;> cases reply <;> first | rfl | cases quiet

theorem followsJournals_run (history : List Operation)
    (room : NumbersSuffice (empty.trace history)) :
    FollowsJournals (empty.trace history) (empty.run history) := by
  -- That the next number is not in use is part of the order, so the two go together.
  have hboth : Orderly (empty.trace history) (empty.run history) ∧
      FollowsJournals (empty.trace history) (empty.run history) := by
    refine run_induction (motive := fun events s => NumbersSuffice events →
      Orderly events s ∧ FollowsJournals events s)
      (fun _ => ⟨orderly_empty, followsJournals_empty⟩) ?_ history room
    intro events s t op answer h hstep room
    obtain ⟨horder, hfollows⟩ := h room.of_concat
    exact ⟨horder.step hstep room, hfollows.step horder hstep room⟩
  exact hboth.2

/-! ## The accepted writes alone -/

/-- Two stores hold the same elements and give the next ones the same ids. -/
structure SameElements (s t : Store) : Prop where
  nodes : s.nodes = t.nodes
  relationships : s.relationships = t.relationships
  nodesCreated : s.nodesCreated = t.nodesCreated
  relationshipsCreated : s.relationshipsCreated = t.relationshipsCreated

end Store

/-- The operation as it is done through another transaction. -/
def Operation.through (tx : Transaction) : Operation → Operation
  | .begin mode => .begin mode
  | .commit _ => .commit tx
  | .rollback _ => .rollback tx
  | .createNode _ labels properties => .createNode tx labels properties
  | .createRelationship _ source target type properties =>
    .createRelationship tx source target type properties
  | .setNodeProperty _ id key value => .setNodeProperty tx id key value
  | .setRelationshipProperty _ id key value => .setRelationshipProperty tx id key value
  | .readNode _ id => .readNode tx id
  | .readRelationship _ id => .readRelationship tx id
  | .readAll _ => .readAll tx

theorem Operation.isWrite_through (tx : Transaction) (op : Operation) :
    (op.through tx).isWrite = op.isWrite := by
  cases op <;> rfl

/-- The writes that succeeded, as they are done through one transaction. -/
def writesThrough (tx : Transaction) (events : List Event) : List Event :=
  (events.filter fun event => event.succeeded && event.op.isWrite).map fun event =>
    ⟨event.op.through tx, event.answer⟩

theorem writesThrough_concat (tx : Transaction) (events : List Event) (event : Event) :
    writesThrough tx (events ++ [event]) =
      writesThrough tx events ++
        if event.succeeded && event.op.isWrite then [⟨event.op.through tx, event.answer⟩]
        else [] := by
  by_cases h : event.succeeded && event.op.isWrite <;> simp [writesThrough, h]

namespace Store

theorem SameElements.trans (h₁ : SameElements s t) (h₂ : SameElements t u) : SameElements s u :=
  ⟨h₁.nodes.trans h₂.nodes, h₁.relationships.trans h₂.relationships,
    h₁.nodesCreated.trans h₂.nodesCreated,
    h₁.relationshipsCreated.trans h₂.relationshipsCreated⟩

theorem SameElements.symm (h : SameElements s t) : SameElements t s :=
  ⟨h.nodes.symm, h.relationships.symm, h.nodesCreated.symm, h.relationshipsCreated.symm⟩

/-- A write that succeeded can be done through any transaction that may write, and where the
elements are the same it gives the same answer and leads to the same elements. -/
theorem SameElements.step {tx : Transaction} (h : SameElements u s)
    (hstep : s.Step op (.ok reply) t) (hwrite : op.isWrite = true) (hmode : tx.mode = .readWrite) :
    ∃ v, u.Step (op.through tx) (.ok reply) v ∧ SameElements v t := by
  obtain ⟨hnodes, hrelationships, hnodesCreated, hrelationshipsCreated⟩ := h
  cases hstep with
  | begin mode => cases hwrite
  | pass reply quiet old => simp [quiet] at hwrite
  | createNode labels properties writable =>
    have hnew := Step.createNode (s := u) labels properties hmode
    rw [hnodesCreated] at hnew
    exact ⟨_, hnew, by rw [hnodes], hrelationships, rfl, hrelationshipsCreated⟩
  | createRelationship properties writable typed hasSource hasTarget =>
    rw [node?, ← hnodes] at hasSource hasTarget
    have hnew := Step.createRelationship (s := u) properties hmode typed hasSource hasTarget
    rw [hrelationshipsCreated] at hnew
    exact ⟨_, hnew, hnodes, by rw [hrelationships], hnodesCreated, rfl⟩
  | setNodeProperty key value writable found =>
    rw [node?, ← hnodes] at found
    have hnew := Step.setNodeProperty (s := u) key value hmode found
    exact ⟨_, hnew, by rw [hnodes], hrelationships, hnodesCreated, hrelationshipsCreated⟩
  | setRelationshipProperty key value writable found =>
    rw [relationship?, ← hrelationships] at found
    have hnew := Step.setRelationshipProperty (s := u) key value hmode found
    exact ⟨_, hnew, hnodes, by rw [hrelationships], hnodesCreated, hrelationshipsCreated⟩

/-- What is not a write that succeeded leaves the elements as they are. -/
theorem SameElements.skip (h : SameElements u s) (hstep : s.Step op answer t)
    (hskipped : ((Event.mk op answer).succeeded && op.isWrite) = false) : SameElements u t := by
  cases hstep with
  | begin mode => exact ⟨h.nodes, h.relationships, h.nodesCreated, h.relationshipsCreated⟩
  | refuse cause objected => exact h
  | pass reply quiet old => exact h
  | createNode | createRelationship | setNodeProperty | setRelationshipProperty =>
    cases hskipped

/-- **The accepted writes of a history can be done again through one transaction**: they get the
same answers and lead to the same elements. -/
theorem replay_spec {tx : Transaction} (hmode : tx.mode = .readWrite) (hfresh : SameElements u empty)
    (history : List Operation) :
    let writes := writesThrough tx (empty.trace history)
    u.trace (writes.map Event.op) = writes ∧
      SameElements (u.run (writes.map Event.op)) (empty.run history) := by
  refine run_induction (motive := fun events s =>
    u.trace ((writesThrough tx events).map Event.op) = writesThrough tx events ∧
      SameElements (u.run ((writesThrough tx events).map Event.op)) s) ⟨rfl, hfresh⟩ ?_ history
  rintro events s t op answer ⟨htrace, hsame⟩ hstep
  rw [writesThrough_concat]
  by_cases hwritten : (Event.mk op answer).succeeded && op.isWrite
  · simp only [if_pos hwritten, List.map_append, List.map_cons, List.map_nil]
    cases answer with
    | error cause => cases hwritten
    | ok reply =>
      have hwrite : op.isWrite = true := by simpa [Event.succeeded] using hwritten
      obtain ⟨v, hnew, hnext⟩ := hsame.step hstep hwrite hmode
      have hperform := hnew.perform_eq (op.isWrite_through tx ▸ hwrite)
      rw [trace_concat, run_concat, htrace, hperform]
      exact ⟨rfl, hnext⟩
  · simp only [if_neg hwritten, List.append_nil]
    exact ⟨htrace, hsame.skip hstep (by simpa using hwritten)⟩

/-- The writes of a history that succeeded, through one transaction that is begun for them. -/
def replayed (history : List Operation) : List Operation :=
  .begin .readWrite ::
    (writesThrough (empty.begin .readWrite).1 (empty.trace history)).map Event.op

theorem replayed_spec (history : List Operation) :
    (empty.trace (replayed history)).tail =
        writesThrough (empty.begin .readWrite).1 (empty.trace history) ∧
      SameElements (empty.run (replayed history)) (empty.run history) :=
  replay_spec (u := (empty.begin .readWrite).2) rfl ⟨rfl, rfl, rfl, rfl⟩ history

/-- **What a store answers is what was written to it**: it has the elements that were created, with
their labels or ends and type, and each property has the value that was written last.  Which
transaction a write went through makes no difference, nor how that transaction ended: histories with
the same accepted writes lead to the same elements, and one transaction for all of them would do. -/
theorem reads_follow_the_writes (history : List Operation)
    (room : NumbersSuffice (empty.trace history)) :
    let events := empty.trace history
    let s := empty.run history
    Follows (nodeJournal events) s.node? Node.id Node.labels Node.properties ∧
      Follows (relationshipJournal events) s.relationship? Relationship.id Relationship.head
        Relationship.properties ∧
      (empty.trace (replayed history)).tail =
        writesThrough (empty.begin .readWrite).1 events ∧
      SameElements (empty.run (replayed history)) s ∧
      ∀ other, replayed other = replayed history → SameElements (empty.run other) s := by
  intro events s
  have hfollows := followsJournals_run history room
  obtain ⟨hanswers, hsame⟩ := replayed_spec history
  refine ⟨hfollows.nodes, hfollows.relationships, hanswers, hsame, ?_⟩
  intro other hother
  have hothers := (replayed_spec other).2
  rw [hother] at hothers
  exact hothers.symm.trans hsame

theorem reads_follow_in_mixedHistory :
    NumbersSuffice (empty.trace mixedHistory) ∧
      Follows (nodeJournal (empty.trace mixedHistory)) (empty.run mixedHistory).node? Node.id
        Node.labels Node.properties := by
  have room : NumbersSuffice (empty.trace mixedHistory) := by
    constructor <;> decide
  exact ⟨room, (reads_follow_the_writes mixedHistory room).1⟩

end Store

end PropertyGraph
