import PropertyGraph.Element.Basic
import PropertyGraph.Error

/-!
# The store

The store holds nodes and relationships under their ids and counts what it has handed out: the
ids of nodes, of relationships and of transactions each run 1, 2, 3, …

A transaction is a marker with a mode.  Writes are refused through a transaction that only
reads, and apart from that it does not matter which transaction a write goes through or how the
transaction ends: writes take effect at once and stay.

A write is an action that leaves a store behind whether it succeeds or fails.  Nothing undoes what
was done before a failure, so an action that is to change nothing when it fails has to make its
checks before its first change.

* `createNode_on`, `createRelationship_on`, `setNodeProperty_on`, `setRelationshipProperty_on` —
  the answer and the store that each write leaves behind.
-/

namespace PropertyGraph

/-- What a transaction may do. -/
inductive TransactionMode where
  | readOnly
  | readWrite
  deriving DecidableEq

/-- Whether a transaction of this mode may write. -/
def TransactionMode.allowsWrites (m : TransactionMode) : Bool := m == .readWrite

/-- A transaction: a marker with a number and a mode. -/
structure Transaction where
  id : TransactionId
  mode : TransactionMode
  deriving DecidableEq

/-- The nodes and relationships of a graph, and how many ids of each kind were handed out. -/
structure Store where
  nodes : OrderedMap NodeId Node
  relationships : OrderedMap RelationshipId Relationship
  nodesCreated : UInt64
  relationshipsCreated : UInt64
  transactionsBegun : UInt64

/-- Something that is done with a store and can fail.  A failure keeps the store as it is at that
moment. -/
abbrev StoreAction := ExceptT Error (StateM Store)

namespace StoreAction

variable {α β : Type}

/-- What an action answers when it is done with a store, and the store afterwards. -/
def on (action : StoreAction α) (s : Store) : Except Error α × Store := action s

variable (s : Store)

@[simp] theorem on_pure (a : α) : on (pure a) s = (.ok a, s) := rfl

@[simp] theorem on_throw (e : Error) : on (throw e : StoreAction α) s = (.error e, s) := rfl

@[simp] theorem on_get : on get s = (.ok s, s) := rfl

@[simp] theorem on_modify (f : Store → Store) : on (modify f) s = (.ok (), f s) := rfl

/-- The second of two actions is done with the store that the first one leaves behind, and only if
the first one succeeds. -/
@[simp] theorem on_bind (first : StoreAction α) (second : α → StoreAction β) :
    on (first >>= second) s =
      match on first s with
      | (.ok a, t) => on (second a) t
      | (.error e, t) => (.error e, t) := by
  simp only [on, bind, ExceptT.bind, ExceptT.mk, StateT.bind]
  rcases first s with ⟨_ | _, t⟩ <;> rfl

@[simp] theorem on_map (f : α → β) (action : StoreAction α) :
    on (f <$> action) s =
      match on action s with
      | (.ok a, t) => (.ok (f a), t)
      | (.error e, t) => (.error e, t) := by
  simp only [on, Functor.map, ExceptT.map, ExceptT.mk, StateT.bind, bind]
  rcases action s with ⟨_ | _, t⟩ <;> rfl

end StoreAction

/-- Nothing if the transaction may write, and the error that it may not otherwise. -/
def Transaction.checkWritable (tx : Transaction) : StoreAction Unit :=
  if tx.mode.allowsWrites then pure () else throw (.readOnly tx.id)

@[simp] theorem Transaction.checkWritable_on (tx : Transaction) (s : Store) :
    tx.checkWritable.on s =
      if tx.mode = .readOnly then (.error (.readOnly tx.id), s) else (.ok (), s) := by
  obtain ⟨id, mode⟩ := tx
  cases mode <;> rfl

namespace Store

/-- The store before anything was done. -/
def empty : Store := ⟨.empty, .empty, 0, 0, 0⟩

instance : Inhabited Store := ⟨empty⟩

/-- A new transaction and the store that has counted it. -/
def begin (s : Store) (mode : TransactionMode) : Transaction × Store :=
  let count := s.transactionsBegun + 1
  (⟨⟨count⟩, mode⟩, { s with transactionsBegun := count })

/-! ## Writes -/

/-- Counts one more node and gives the id that is handed out for it. -/
def nextNodeId : StoreAction NodeId := do
  let count := (← get).nodesCreated + 1
  modify fun s => { s with nodesCreated := count }
  return ⟨count⟩

/-- Counts one more relationship and gives the id that is handed out for it. -/
def nextRelationshipId : StoreAction RelationshipId := do
  let count := (← get).relationshipsCreated + 1
  modify fun s => { s with relationshipsCreated := count }
  return ⟨count⟩

/-- Creates a node and gives its id. -/
def createNode (tx : Transaction) (labels : List String) (properties : PropertyMap) :
    StoreAction NodeId := do
  tx.checkWritable
  let id ← nextNodeId
  modify fun s => { s with nodes := s.nodes.insert id ⟨id, labels, properties⟩ }
  return id

/-- Creates a relationship between two nodes of the store and gives its id. -/
def createRelationship (tx : Transaction) (source target : NodeId) (type : String)
    (properties : PropertyMap) : StoreAction RelationshipId := do
  tx.checkWritable
  if type = "" then throw (.emptyName .relationshipType)
  let nodes := (← get).nodes
  if !nodes.contains source then throw (.noSource source)
  if !nodes.contains target then throw (.noTarget target)
  let id ← nextRelationshipId
  modify fun s =>
    { s with relationships := s.relationships.insert id ⟨id, source, target, type, properties⟩ }
  return id

/-- Sets a property of a node. -/
def setNodeProperty (tx : Transaction) (id : NodeId) (key : String) (value : Value) :
    StoreAction Unit := do
  tx.checkWritable
  match (← get).nodes.get? id with
  | some n => modify fun s => { s with nodes := s.nodes.insert id (n.setProperty key value) }
  | none => throw (.noNode id)

/-- Sets a property of a relationship. -/
def setRelationshipProperty (tx : Transaction) (id : RelationshipId) (key : String)
    (value : Value) : StoreAction Unit := do
  tx.checkWritable
  match (← get).relationships.get? id with
  | some r =>
    modify fun s => { s with relationships := s.relationships.insert id (r.setProperty key value) }
  | none => throw (.noRelationship id)

/-! ## Reads -/

/-- The node with an id. -/
def node? (s : Store) (id : NodeId) : Option Node := s.nodes.get? id

/-- The relationship with an id. -/
def relationship? (s : Store) (id : RelationshipId) : Option Relationship :=
  s.relationships.get? id

/-- All nodes in the order of their ids. -/
def allNodes (s : Store) : List Node := s.nodes.values

/-- All relationships in the order of their ids. -/
def allRelationships (s : Store) : List Relationship := s.relationships.values

/-- The number of nodes held. -/
def nodeCount (s : Store) : Nat := s.nodes.size

/-- The number of relationships held. -/
def relationshipCount (s : Store) : Nat := s.relationships.size

/-- The number of nodes, as it is asked of a store of any make. -/
def countNodes (s : Store) : Nat := s.nodeCount

/-- The number of nodes that a scan meets. -/
def scannedNodeCount (s : Store) : Nat := s.allNodes.length

/-- The number of relationships that a scan meets. -/
def scannedRelationshipCount (s : Store) : Nat := s.allRelationships.length

/-! ## What each write leaves behind -/

variable (s : Store) (tx : Transaction)

theorem nextNodeId_on :
    nextNodeId.on s = (.ok ⟨s.nodesCreated + 1⟩, { s with nodesCreated := s.nodesCreated + 1 }) :=
  rfl

theorem nextRelationshipId_on :
    nextRelationshipId.on s =
      (.ok ⟨s.relationshipsCreated + 1⟩,
        { s with relationshipsCreated := s.relationshipsCreated + 1 }) :=
  rfl

/-- A node is created under the next number, or refused because the transaction only reads. -/
theorem createNode_on (labels : List String) (properties : PropertyMap) :
    (createNode tx labels properties).on s =
      if tx.mode = .readOnly then (.error (.readOnly tx.id), s)
      else
        let id : NodeId := ⟨s.nodesCreated + 1⟩
        (.ok id, { s with
          nodes := s.nodes.insert id ⟨id, labels, properties⟩
          nodesCreated := s.nodesCreated + 1 }) := by
  by_cases hmode : tx.mode = .readOnly <;> simp [createNode, hmode, nextNodeId_on]

/-- A relationship is created under the next number, or refused: because the transaction only
reads, else because of the type, else because of the source, else because of the target. -/
theorem createRelationship_on (source target : NodeId) (type : String)
    (properties : PropertyMap) :
    (createRelationship tx source target type properties).on s =
      if tx.mode = .readOnly then (.error (.readOnly tx.id), s)
      else if type = "" then (.error (.emptyName .relationshipType), s)
      else if s.node? source = none then (.error (.noSource source), s)
      else if s.node? target = none then (.error (.noTarget target), s)
      else
        let id : RelationshipId := ⟨s.relationshipsCreated + 1⟩
        (.ok id, { s with
          relationships := s.relationships.insert id ⟨id, source, target, type, properties⟩
          relationshipsCreated := s.relationshipsCreated + 1 }) := by
  by_cases hmode : tx.mode = .readOnly
  · simp [createRelationship, hmode]
  by_cases htype : type = ""
  · simp [createRelationship, hmode, htype]
  cases hsource : s.nodes.get? source with
  | none => simp [createRelationship, hmode, htype, node?, OrderedMap.contains, hsource]
  | some n =>
    cases htarget : s.nodes.get? target with
    | none =>
      simp [createRelationship, hmode, htype, node?, OrderedMap.contains, hsource, htarget]
    | some m =>
      simp [createRelationship, hmode, htype, node?, OrderedMap.contains, hsource, htarget,
        nextRelationshipId_on]

/-- A property of a node is set, or refused: because the transaction only reads, else because the
node is not there. -/
theorem setNodeProperty_on (id : NodeId) (key : String) (value : Value) :
    (setNodeProperty tx id key value).on s =
      if tx.mode = .readOnly then (.error (.readOnly tx.id), s)
      else
        match s.node? id with
        | none => (.error (.noNode id), s)
        | some n => (.ok (), { s with nodes := s.nodes.insert id (n.setProperty key value) }) := by
  by_cases hmode : tx.mode = .readOnly
  · simp [setNodeProperty, hmode]
  · cases hfound : s.nodes.get? id <;> simp [setNodeProperty, hmode, node?, hfound]

/-- A property of a relationship is set, or refused: because the transaction only reads, else
because the relationship is not there. -/
theorem setRelationshipProperty_on (id : RelationshipId) (key : String) (value : Value) :
    (setRelationshipProperty tx id key value).on s =
      if tx.mode = .readOnly then (.error (.readOnly tx.id), s)
      else
        match s.relationship? id with
        | none => (.error (.noRelationship id), s)
        | some r =>
          (.ok (), { s with relationships := s.relationships.insert id (r.setProperty key value) })
      := by
  by_cases hmode : tx.mode = .readOnly
  · simp [setRelationshipProperty, hmode]
  · cases hfound : s.relationships.get? id <;>
      simp [setRelationshipProperty, hmode, relationship?, hfound]

end Store

end PropertyGraph
