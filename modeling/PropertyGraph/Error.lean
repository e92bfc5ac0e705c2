import PropertyGraph.Element.Identifier

/-!
# Errors

Every failure of the library has a cause, a kind and a message.  The message is the name of the
kind, a colon and the detail of the cause.

* `message_readOnly`, `message_notFound` — the messages that name an id, in full.
-/

namespace PropertyGraph

/-- The kinds of failure. -/
inductive ErrorKind where
  | invalidArgument
  | illegalState
  | storage
  | transaction
  | notFound
  | serialization
  deriving DecidableEq

/-- The name of a kind, as it begins a message. -/
def ErrorKind.name : ErrorKind → String
  | .invalidArgument => "Invalid argument"
  | .illegalState => "Illegal state"
  | .storage => "Storage error"
  | .transaction => "Transaction error"
  | .notFound => "Not found"
  | .serialization => "Serialization error"

/-- The message of a failure of this kind with the given detail. -/
def ErrorKind.message (kind : ErrorKind) (detail : String) : String := kind.name ++ ": " ++ detail

/-- The names that must not be empty. -/
inductive NameKind where
  | label
  | relationshipType
  | propertyKey
  deriving DecidableEq

/-- How a kind of name is called. -/
def NameKind.text : NameKind → String
  | .label => "label"
  | .relationshipType => "relationship type"
  | .propertyKey => "property key"

/-- The causes of failure. -/
inductive Error where
  /-- a name is the empty string -/
  | emptyName (what : NameKind)
  /-- a write through a transaction that only reads -/
  | readOnly (transaction : TransactionId)
  /-- a relationship from a node that is not there -/
  | noSource (id : NodeId)
  /-- a relationship to a node that is not there -/
  | noTarget (id : NodeId)
  | noNode (id : NodeId)
  | noRelationship (id : RelationshipId)
  /-- a sequence that should have one item at most has more -/
  | severalItems
  /-- a sequence to pick an item from has none -/
  | nothingToPick
  deriving DecidableEq

namespace Error

/-- The kind of a cause. -/
def kind : Error → ErrorKind
  | .emptyName _ => .invalidArgument
  | .readOnly _ => .transaction
  | .noSource _ => .notFound
  | .noTarget _ => .notFound
  | .noNode _ => .notFound
  | .noRelationship _ => .notFound
  | .severalItems => .illegalState
  | .nothingToPick => .invalidArgument

/-- The detail of a cause. -/
def detail : Error → String
  | .emptyName what => what.text ++ " must not be empty"
  | .readOnly transaction => transaction.display ++ " is read-only"
  | .noSource id => "Source node " ++ id.display
  | .noTarget id => "Target node " ++ id.display
  | .noNode id => "Node " ++ id.display
  | .noRelationship id => "Relationship " ++ id.display
  | .severalItems => "iterable has more than one element, which is unexpected"
  | .nothingToPick => "empty iterable can't be randomized"

/-- The message of a failure. -/
def message (e : Error) : String := e.kind.message e.detail

/-! ## Messages in full -/

theorem message_readOnly (id : TransactionId) :
    (readOnly id).message =
      "Transaction error: tx-" ++ toString id.number.toNat ++ " is read-only" := by
  simp only [message, kind, detail, ErrorKind.message, ErrorKind.name, TransactionId.display,
    ← String.append_assoc, String.reduceAppend]

/-- What is not found is named behind the name of the kind. -/
theorem message_notFound {e : Error} {what : String} {number : UInt64}
    (hkind : e.kind = .notFound) (hdetail : e.detail = what ++ toString number.toNat) :
    e.message = "Not found: " ++ what ++ toString number.toNat := by
  simp only [message, hkind, hdetail, ErrorKind.message, ErrorKind.name, ← String.append_assoc,
    String.reduceAppend]

end Error

end PropertyGraph
