import PropertyGraph.Store.Basic

/-!
# Operations

What can be done with a store, as data: an operation with its arguments, carried out by
`Store.perform`, answers with a reply or an error and leaves a store behind.  Each operation names
the transaction it goes through.

* `Operation.Answers` — the replies that an operation can have if it succeeds.
-/

namespace PropertyGraph

/-- Something to do with a store. -/
inductive Operation where
  | begin (mode : TransactionMode)
  | commit (tx : Transaction)
  | rollback (tx : Transaction)
  | createNode (tx : Transaction) (labels : List String) (properties : PropertyMap)
  | createRelationship (tx : Transaction) (source target : NodeId) (type : String)
      (properties : PropertyMap)
  | setNodeProperty (tx : Transaction) (id : NodeId) (key : String) (value : Value)
  | setRelationshipProperty (tx : Transaction) (id : RelationshipId) (key : String)
      (value : Value)
  | readNode (tx : Transaction) (id : NodeId)
  | readRelationship (tx : Transaction) (id : RelationshipId)
  | readAll (tx : Transaction)

/-- What an operation answers. -/
inductive Reply where
  | done
  | begun (tx : Transaction)
  | createdNode (id : NodeId)
  | createdRelationship (id : RelationshipId)
  | foundNode (node : Option Node)
  | foundRelationship (relationship : Option Relationship)
  | foundAll (nodes : List Node) (relationships : List Relationship)

namespace Operation

/-- What is done for an operation.  Ending a transaction does nothing, and so does reading. -/
def action : Operation → StoreAction Reply
  | .begin mode => do
    let tx ← modifyGet fun s => s.begin mode
    return .begun tx
  | .commit _ => return .done
  | .rollback _ => return .done
  | .createNode tx labels properties => do
    let id ← Store.createNode tx labels properties
    return .createdNode id
  | .createRelationship tx source target type properties => do
    let id ← Store.createRelationship tx source target type properties
    return .createdRelationship id
  | .setNodeProperty tx id key value => do
    Store.setNodeProperty tx id key value
    return .done
  | .setRelationshipProperty tx id key value => do
    Store.setRelationshipProperty tx id key value
    return .done
  | .readNode _ id => return .foundNode ((← get).node? id)
  | .readRelationship _ id => return .foundRelationship ((← get).relationship? id)
  | .readAll _ => return .foundAll (← get).allNodes (← get).allRelationships

/-- Whether the operation creates an element or sets a property. -/
def isWrite : Operation → Bool
  | .createNode .. | .createRelationship .. => true
  | .setNodeProperty .. | .setRelationshipProperty .. => true
  | _ => false

/-- The reply fits the operation: beginning gives a transaction of the mode that was asked for,
creating gives the id of a new element of that kind, and setting a property gives nothing. -/
inductive Answers : Operation → Reply → Prop
  | begin (mode : TransactionMode) (id : TransactionId) :
      Answers (.begin mode) (.begun ⟨id, mode⟩)
  | createNode (tx : Transaction) (labels : List String) (properties : PropertyMap)
      (id : NodeId) : Answers (.createNode tx labels properties) (.createdNode id)
  | createRelationship (tx : Transaction) (source target : NodeId) (type : String)
      (properties : PropertyMap) (id : RelationshipId) :
      Answers (.createRelationship tx source target type properties) (.createdRelationship id)
  | setNodeProperty (tx : Transaction) (id : NodeId) (key : String) (value : Value) :
      Answers (.setNodeProperty tx id key value) .done
  | setRelationshipProperty (tx : Transaction) (id : RelationshipId) (key : String)
      (value : Value) : Answers (.setRelationshipProperty tx id key value) .done
  | other {op : Operation} (reply : Reply) (quiet : op.isWrite = false)
      (old : ∀ mode, op ≠ .begin mode) : Answers op reply

end Operation

namespace Store

/-- Carries out an operation: its answer, and the store after it. -/
def perform (s : Store) (op : Operation) : Except Error Reply × Store := op.action.on s

end Store

end PropertyGraph
