import PropertyGraph.Store.History
import PropertyGraph.Store.Scan

/-!
# Sessions

A session works on several graphs at once.  A graph is a handle of a store, and two graphs can be
handles of the same store: then they share its elements and its counters.  Transactions are
numbered in the order in which they begin, stay open until they are finished, and can be used with
the store of another graph, because they are mere markers.  A session also keeps snapshots and
compares them later with the elements that are live then.
-/

namespace PropertyGraph

/-- A snapshot and the id of the element that it was taken of. -/
inductive Kept where
  | node (id : NodeId) (snapshot : NodeSnapshot)
  | relationship (id : RelationshipId) (snapshot : RelationshipSnapshot)

/-- The graphs, transactions and kept snapshots of a session. -/
structure Session where
  stores : List Store
  /-- the position of the store of each graph -/
  graphs : List Nat
  /-- each transaction with the position of its store, or `none` once it is finished -/
  transactions : List (Option (Nat × Transaction))
  kept : List Kept

/-- Why a step of a session is not carried out. -/
inductive SessionError where
  | noSuchGraph
  /-- the transaction does not exist or is finished -/
  | noSuchTransaction

namespace Session

/-- The session with one empty graph. -/
def start : Session := ⟨[.empty], [0], [], []⟩

/-- The position of the store of a graph. -/
def storeOf (s : Session) (graph : Nat) : Except SessionError Nat :=
  match s.graphs[graph]? with
  | some i => .ok i
  | none => .error .noSuchGraph

/-- The store at a position. -/
def storeAt (s : Session) (i : Nat) : Store := s.stores.getD i .empty

/-- The session with another store at a position. -/
def setStore (s : Session) (i : Nat) (store : Store) : Session :=
  { s with stores := s.stores.set i store }

/-- A graph with a store of its own. -/
def newGraph (s : Session) : Nat × Session :=
  (s.graphs.length,
    { s with stores := s.stores ++ [.empty], graphs := s.graphs ++ [s.stores.length] })

/-- Another graph with the store of a given one. -/
def shareGraph (s : Session) (graph : Nat) : Except SessionError (Nat × Session) := do
  let i ← s.storeOf graph
  return (s.graphs.length, { s with graphs := s.graphs ++ [i] })

/-- A new transaction on the store of a graph, and its number. -/
def begin (s : Session) (graph : Nat) (mode : TransactionMode) :
    Except SessionError ((Nat × Transaction) × Session) := do
  let i ← s.storeOf graph
  let (tx, store) := (s.storeAt i).begin mode
  let s := s.setStore i store
  return ((s.transactions.length, tx),
    { s with transactions := s.transactions ++ [some (i, tx)] })

/-- An open transaction and the position of its store. -/
def open? (s : Session) (number : Nat) : Except SessionError (Nat × Transaction) :=
  match s.transactions[number]? with
  | some (some found) => .ok found
  | _ => .error .noSuchTransaction

/-- An open transaction and the position of the store it is used with: its own, or that of a
graph that is named. -/
def place (s : Session) (number : Nat) (graph : Option Nat) :
    Except SessionError (Nat × Transaction) := do
  let (own, tx) ← s.open? number
  match graph with
  | none => return (own, tx)
  | some graph => return (← s.storeOf graph, tx)

/-- Ends an open transaction, on its own store or on that of a graph that is named.  Whether it is
committed or rolled back makes no difference, and no store changes; but a graph that does not exist
leaves the transaction open. -/
def finish (s : Session) (number : Nat) (graph : Option Nat) : Except SessionError Session := do
  let _ ← s.place number graph
  return { s with transactions := s.transactions.set number none }

/-- Carries out an operation on the store at a position: its answer, and the session with the
store that it leaves behind. -/
def perform (s : Session) (i : Nat) (op : Operation) : Except Error Reply × Session :=
  let (answer, store) := (s.storeAt i).perform op
  (answer, s.setStore i store)

/-- Keeps the snapshot of a node, if it is there, and gives its number. -/
def keepNode (s : Session) (i : Nat) (id : NodeId) : Option Nat × Session :=
  match (s.storeAt i).node? id with
  | some n => (some s.kept.length, { s with kept := s.kept ++ [.node id (.ofNode n)] })
  | none => (none, s)

/-- Keeps the snapshot of a relationship, if it is there, and gives its number. -/
def keepRelationship (s : Session) (i : Nat) (id : RelationshipId) : Option Nat × Session :=
  match (s.storeAt i).relationship? id with
  | some r =>
    (some s.kept.length, { s with kept := s.kept ++ [.relationship id (.ofRelationship r)] })
  | none => (none, s)

end Session

/-- The text of a kept snapshot. -/
def Kept.display : Kept → String
  | .node _ snapshot => snapshot.display
  | .relationship _ snapshot => snapshot.display

/-- Whether a kept snapshot still matches the element it was taken of, if that is there. -/
def Kept.matches? (store : Store) : Kept → Option Bool
  | .node id snapshot => (store.node? id).map snapshot.matchesNode
  | .relationship id snapshot => (store.relationship? id).map snapshot.matchesRelationship

end PropertyGraph
