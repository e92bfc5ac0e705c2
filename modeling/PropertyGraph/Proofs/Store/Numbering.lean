import Mathlib.Algebra.Group.Nat.Defs
import PropertyGraph.Store.History

/-!
# Numbers in order of creation

A store counts what it hands out.  After any history the ids of the nodes that were created, of the
relationships and of the transactions are numbered 1, 2, 3, … in the order of their creation, as
long as there are numbers left; attempts that failed take no number.

* `handed_out_iff_succeeded` — each creation and each beginning that succeeds hands out an id;
* `Numbering` — how the table of a kind of element belongs to the ids handed out for it;
* `Orderly` — the invariant of both tables, with the ends and types of the relationships;
* `Orderly.step`, `orderly_run` — every step keeps it, so it holds after every history;
* `transactions_run` — the same for the transactions, which are only counted;
* `numbered_in_order_of_creation` — what scans, look-ups and counts make of it.
-/

namespace PropertyGraph

open Numbered

/-! ## What a history hands out -/

namespace Event

/-- The id of the node that was created. -/
def createdNode? (event : Event) : Option NodeId :=
  match event.answer, event.op with
  | .ok (.createdNode id), .createNode .. => some id
  | _, _ => none

/-- The id of the relationship that was created. -/
def createdRelationship? (event : Event) : Option RelationshipId :=
  match event.answer, event.op with
  | .ok (.createdRelationship id), .createRelationship .. => some id
  | _, _ => none

/-- The id of the transaction that was begun. -/
def begun? (event : Event) : Option TransactionId :=
  match event.answer, event.op with
  | .ok (.begun tx), .begin _ => some tx.id
  | _, _ => none

end Event

/-- The nodes that were created, in order. -/
def createdNodes (events : List Event) : List NodeId := events.filterMap Event.createdNode?

/-- The relationships that were created, in order. -/
def createdRelationships (events : List Event) : List RelationshipId :=
  events.filterMap Event.createdRelationship?

/-- The transactions that were begun, in order. -/
def begunTransactions (events : List Event) : List TransactionId := events.filterMap Event.begun?

/-- **Ids are handed out by the operations that succeed**: each creation of a node gives the id of
one, and so do the creations of relationships and the beginnings of transactions. -/
theorem handed_out_iff_succeeded {s : Store} {history : List Operation} {event : Event}
    (h : event ∈ s.trace history) :
    (event.createdNode? ≠ none ↔ event.succeeded = true ∧
        ∃ tx labels properties, event.op = .createNode tx labels properties) ∧
      (event.createdRelationship? ≠ none ↔ event.succeeded = true ∧
        ∃ tx source target type properties,
          event.op = .createRelationship tx source target type properties) ∧
      (event.begun? ≠ none ↔ event.succeeded = true ∧ ∃ mode, event.op = .begin mode) := by
  obtain ⟨op, answer⟩ := event
  cases answer with
  | error cause =>
    simp [Event.createdNode?, Event.createdRelationship?, Event.begun?, Event.succeeded]
  | ok reply =>
    cases Store.answers_of_mem_trace h rfl with
    | other reply quiet old =>
      cases op with
      | begin mode => exact absurd rfl (old mode)
      | createNode | createRelationship | setNodeProperty | setRelationshipProperty => cases quiet
      | _ => cases reply <;> simp [Event.createdNode?, Event.createdRelationship?, Event.begun?]
    | _ => simp [Event.createdNode?, Event.createdRelationship?, Event.begun?, Event.succeeded]

/-- The numbers of 64 bits have sufficed for the elements that were created. -/
structure NumbersSuffice (events : List Event) : Prop where
  nodes : (createdNodes events).length < 2 ^ 64
  relationships : (createdRelationships events).length < 2 ^ 64

section OneMoreEvent

variable (events : List Event) (event : Event)

theorem createdNodes_concat :
    createdNodes (events ++ [event]) = createdNodes events ++ event.createdNode?.toList :=
  filterMap_concat _ events event

theorem createdRelationships_concat :
    createdRelationships (events ++ [event]) =
      createdRelationships events ++ event.createdRelationship?.toList :=
  filterMap_concat _ events event

theorem begunTransactions_concat :
    begunTransactions (events ++ [event]) =
      begunTransactions events ++ event.begun?.toList :=
  filterMap_concat _ events event

theorem NumbersSuffice.of_concat {events : List Event} {event : Event}
    (room : NumbersSuffice (events ++ [event])) : NumbersSuffice events := by
  obtain ⟨hnodes, hrelationships⟩ := room
  rw [createdNodes_concat, List.length_append] at hnodes
  rw [createdRelationships_concat, List.length_append] at hrelationships
  exact ⟨by omega, by omega⟩

end OneMoreEvent

/-! ## One table -/

/-- The ids are numbered from 1 up to the count. -/
def CountedTo {ι : Type} [Numbered ι] (ids : List ι) (count : UInt64) : Prop :=
  ids.map ordinal = List.range' 1 count.toNat

/-- The ids handed out for a kind of element are numbered up to the count, the table has an element
for each of them and no other, and the element tells its id. -/
structure Numbering {ι η : Type} [Numbered ι] [DecidableEq ι] (ids : List ι) (count : UInt64)
    (table : OrderedMap ι η) (idOf : η → ι) : Prop where
  counted : CountedTo ids count
  keys : table.keys = ids
  own : ∀ id e, table.get? id = some e → idOf e = id

section OneTable

variable {ι η : Type} [Numbered ι] {ids : List ι} {count : UInt64}

theorem CountedTo.length_eq (h : CountedTo ids count) : ids.length = count.toNat := by
  have hlength := congrArg List.length h
  simpa using hlength

theorem CountedTo.mem_iff (h : CountedTo ids count) (id : ι) :
    id ∈ ids ↔ 1 ≤ ordinal id ∧ ordinal id ≤ count.toNat := by
  have hmem : id ∈ ids ↔ ordinal id ∈ ids.map ordinal := by
    refine ⟨List.mem_map_of_mem, fun hmap => ?_⟩
    obtain ⟨other, hother, heq⟩ := List.mem_map.1 hmap
    exact ordinal_inj heq ▸ hother
  rw [hmem, h, List.mem_range'_1]
  omega

/-- If there is room for the next id, counting it does not overflow. -/
theorem CountedTo.toNat_lt (h : CountedTo ids count)
    (room : (ids ++ [(next count : ι)]).length < 2 ^ 64) : count.toNat + 1 < 2 ^ 64 := by
  have hlength := h.length_eq
  simpa [hlength] using room

theorem CountedTo.concat (h : CountedTo ids count)
    (room : (ids ++ [(next count : ι)]).length < 2 ^ 64) :
    CountedTo (ids ++ [next count]) (count + 1) := by
  have hroom := h.toNat_lt room
  unfold CountedTo
  rw [List.map_append, h, toNat_add_one hroom, List.range'_concat]
  simp [ordinal_next hroom]
  omega

variable [DecidableEq ι] {table : OrderedMap ι η} {idOf : η → ι}

/-- The number that is handed out next is not in use. -/
theorem Numbering.get?_next (h : Numbering ids count table idOf)
    (room : (ids ++ [(next count : ι)]).length < 2 ^ 64) : table.get? (next count) = none := by
  cases hfound : table.get? (next count) with
  | none => rfl
  | some e =>
    have hkey : (next count : ι) ∈ table.keys := by simp [table.mem_keys_iff, hfound]
    rw [h.keys, h.counted.mem_iff, ordinal_next (h.counted.toNat_lt room)] at hkey
    omega

/-- An element that is added under the next number takes its place after all others. -/
theorem Numbering.create (h : Numbering ids count table idOf)
    (room : (ids ++ [(next count : ι)]).length < 2 ^ 64) {e : η} (he : idOf e = next count) :
    Numbering (ids ++ [next count]) (count + 1) (table.insert (next count) e) idOf where
  counted := h.counted.concat room
  keys := by
    rw [OrderedMap.keys_insert_of_last, h.keys]
    intro id hid
    rw [h.keys, h.counted.mem_iff] at hid
    rw [compare_eq_lt, ordinal_next (h.counted.toNat_lt room)]
    omega
  own := OrderedMap.forall_get?_insert h.own he

/-- An element that is replaced by one with its id keeps its place. -/
theorem Numbering.set (h : Numbering ids count table idOf) {id : ι} {e e' : η}
    (hfound : table.get? id = some e) (hsame : idOf e' = idOf e) :
    Numbering ids count (table.insert id e') idOf where
  counted := h.counted
  keys := by rw [OrderedMap.keys_insert_of_get? e' hfound, h.keys]
  own := OrderedMap.forall_get?_insert h.own (hsame.trans (h.own id e hfound))

end OneTable

/-! ## The whole store -/

namespace Store

/-- The ends of a relationship are among the nodes, and its type is not empty. -/
structure Attached (nodes : OrderedMap NodeId Node) (r : Relationship) : Prop where
  source : nodes.get? r.source ≠ none
  target : nodes.get? r.target ≠ none
  typed : r.type ≠ ""

theorem Attached.insert {nodes : OrderedMap NodeId Node} {r : Relationship}
    (h : Attached nodes r) (id : NodeId) (n : Node) : Attached (nodes.insert id n) r where
  source := OrderedMap.get?_insert_ne_none id n h.source
  target := OrderedMap.get?_insert_ne_none id n h.target
  typed := h.typed

/-- The tables of a store belong to the ids that these events handed out, and no relationship hangs
loose. -/
structure Orderly (events : List Event) (s : Store) : Prop where
  nodes : Numbering (createdNodes events) s.nodesCreated s.nodes Node.id
  relationships :
    Numbering (createdRelationships events) s.relationshipsCreated s.relationships Relationship.id
  attached : ∀ id r, s.relationships.get? id = some r → Attached s.nodes r

variable {events : List Event} {s t : Store} {op : Operation} {answer : Except Error Reply}

theorem orderly_empty : Orderly [] empty where
  nodes := ⟨rfl, rfl, nofun⟩
  relationships := ⟨rfl, rfl, nofun⟩
  attached := nofun

/-- An event that creates nothing leaves the lists of ids as they are. -/
theorem Orderly.quiet {event : Event} (h : Orderly events s) (hnode : event.createdNode? = none)
    (hrelationship : event.createdRelationship? = none) : Orderly (events ++ [event]) s := by
  obtain ⟨hnodes, hrelationships, hattached⟩ := h
  refine ⟨?_, ?_, hattached⟩
  · simpa [createdNodes_concat, hnode] using hnodes
  · simpa [createdRelationships_concat, hrelationship] using hrelationships

/-- **Every step keeps the store in order**, as long as the numbers suffice. -/
theorem Orderly.step (h : Orderly events s) (hstep : s.Step op answer t)
    (room : NumbersSuffice (events ++ [⟨op, answer⟩])) : Orderly (events ++ [⟨op, answer⟩]) t := by
  cases hstep with
  | begin mode => exact Orderly.quiet ⟨h.nodes, h.relationships, h.attached⟩ rfl rfl
  | createNode labels properties writable =>
    have hroom := room.nodes
    rw [createdNodes_concat] at hroom
    refine ⟨?_, ?_, ?_⟩
    · rw [createdNodes_concat]
      exact h.nodes.create hroom rfl
    · simpa [createdRelationships_concat, Event.createdRelationship?] using h.relationships
    · exact fun id r hr => (h.attached id r hr).insert _ _
  | createRelationship properties writable typed hasSource hasTarget =>
    have hroom := room.relationships
    rw [createdRelationships_concat] at hroom
    refine ⟨?_, ?_, ?_⟩
    · simpa [createdNodes_concat, Event.createdNode?] using h.nodes
    · rw [createdRelationships_concat]
      exact h.relationships.create hroom rfl
    · exact OrderedMap.forall_get?_insert h.attached ⟨hasSource, hasTarget, typed⟩
  | setNodeProperty key value writable found =>
    refine Orderly.quiet ⟨?_, h.relationships, ?_⟩ rfl rfl
    · exact h.nodes.set found rfl
    · exact fun id r hr => (h.attached id r hr).insert _ _
  | setRelationshipProperty key value writable found =>
    refine Orderly.quiet ⟨h.nodes, ?_, ?_⟩ rfl rfl
    · exact h.relationships.set found rfl
    · obtain ⟨hsource, htarget, htyped⟩ := h.attached _ _ found
      exact OrderedMap.forall_get?_insert h.attached ⟨hsource, htarget, htyped⟩
  | refuse cause objected => exact h.quiet rfl rfl
  | pass reply quiet old =>
    refine h.quiet ?_ ?_ <;> cases op <;> cases reply <;> first | rfl | cases quiet

/-- **A store is in order after every history.** -/
theorem orderly_run (history : List Operation) (room : NumbersSuffice (empty.trace history)) :
    Orderly (empty.trace history) (empty.run history) := by
  refine run_induction (motive := fun events s => NumbersSuffice events → Orderly events s)
    (fun _ => orderly_empty) ?_ history room
  intro events s t op answer h hstep room
  exact (h room.of_concat).step hstep room

/-- Only beginning a transaction counts one. -/
theorem transactions_step (h : CountedTo (begunTransactions events) s.transactionsBegun)
    (hstep : s.Step op answer t)
    (room : (begunTransactions (events ++ [⟨op, answer⟩])).length < 2 ^ 64) :
    CountedTo (begunTransactions (events ++ [⟨op, answer⟩])) t.transactionsBegun := by
  rw [begunTransactions_concat] at room ⊢
  cases hstep with
  | begin mode => exact h.concat room
  | pass reply quiet old =>
    have hnone : Event.begun? ⟨op, .ok reply⟩ = none := by
      cases op with
      | begin mode => exact absurd rfl (old mode)
      | _ => cases reply <;> rfl
    simpa [hnone] using h
  | _ => simpa [Event.begun?] using h

theorem transactions_run (history : List Operation)
    (room : (begunTransactions (empty.trace history)).length < 2 ^ 64) :
    CountedTo (begunTransactions (empty.trace history)) (empty.run history).transactionsBegun := by
  refine run_induction (motive := fun events s => (begunTransactions events).length < 2 ^ 64 →
    CountedTo (begunTransactions events) s.transactionsBegun) (fun _ => rfl) ?_ history room
  intro events s t op answer h hstep room
  have hfewer : (begunTransactions events).length < 2 ^ 64 := by
    rw [begunTransactions_concat, List.length_append] at room
    omega
  exact transactions_step (h hfewer) hstep room

end Store

/-! ## What can be read -/

/-- The elements that were created are numbered from 1.  Each is found under its own id, and all of
them are listed once, in the order of their creation. -/
structure Listed {ι η : Type} [Numbered ι] (created : List ι) (find : ι → Option η)
    (idOf : η → ι) (all : List η) : Prop where
  numbered : created.map ordinal = List.range' 1 created.length
  stored_iff : ∀ id, find id ≠ none ↔ 1 ≤ ordinal id ∧ ordinal id ≤ created.length
  own : ∀ id e, find id = some e → idOf e = id
  mem_iff : ∀ e, e ∈ all ↔ find (idOf e) = some e
  in_order : all.map idOf = created
  increasing : all.Pairwise fun a b => ordinal (idOf a) < ordinal (idOf b)

theorem Numbering.listed {ι η : Type} [Numbered ι] [DecidableEq ι] {ids : List ι}
    {count : UInt64} {table : OrderedMap ι η} {idOf : η → ι}
    (h : Numbering ids count table idOf) : Listed ids table.get? idOf table.values := by
  have hlength := h.counted.length_eq
  have hids : table.values.map idOf = ids := by
    rw [table.map_values_of_keyed h.own, h.keys]
  have hnumbers : ids.map ordinal = List.range' 1 ids.length := by
    rw [hlength]
    exact h.counted
  refine ⟨hnumbers, ?_, h.own, ?_, hids, ?_⟩
  · intro id
    rw [← Option.isSome_iff_ne_none, ← table.mem_keys_iff, h.keys, h.counted.mem_iff, hlength]
  · intro e
    rw [table.mem_values_iff]
    constructor
    · rintro ⟨id, hid⟩
      rwa [h.own id e hid]
    · exact fun he => ⟨idOf e, he⟩
  · have hascend : (table.values.map fun e => ordinal (idOf e)).Pairwise (· < ·) := by
      have hmap : (table.values.map fun e => ordinal (idOf e)) = List.range' 1 ids.length := by
        rw [← hnumbers, ← hids, List.map_map]
        rfl
      rw [hmap]
      exact List.pairwise_lt_range'
    exact List.pairwise_map.1 hascend

namespace Store

/-- **Everything is numbered in the order of its creation**, and the store holds what was created:
no id is skipped or handed out twice, no relationship hangs loose, and the counts are those of the
scans. -/
theorem numbered_in_order_of_creation (history : List Operation)
    (room : NumbersSuffice (empty.trace history))
    (begins : (begunTransactions (empty.trace history)).length < 2 ^ 64) :
    let events := empty.trace history
    let s := empty.run history
    Listed (createdNodes events) s.node? Node.id s.allNodes ∧
      Listed (createdRelationships events) s.relationship? Relationship.id s.allRelationships ∧
      (begunTransactions events).map ordinal =
        List.range' 1 (begunTransactions events).length ∧
      (∀ id r, s.relationship? id = some r →
        s.node? r.source ≠ none ∧ s.node? r.target ≠ none ∧ r.type ≠ "") ∧
      s.nodeCount = s.allNodes.length ∧ s.countNodes = s.allNodes.length ∧
      s.scannedNodeCount = s.nodeCount ∧
      s.relationshipCount = s.allRelationships.length ∧
      s.scannedRelationshipCount = s.relationshipCount := by
  intro events s
  have horder := orderly_run history room
  refine ⟨horder.nodes.listed, horder.relationships.listed, ?_, ?_, ?_⟩
  · have hcounted := transactions_run history begins
    rw [hcounted.length_eq]
    exact hcounted
  · intro id r hr
    obtain ⟨hsource, htarget, htyped⟩ := horder.attached id r hr
    exact ⟨hsource, htarget, htyped⟩
  · have hnodes : s.nodes.size = s.nodes.values.length := s.nodes.length_values.symm
    have hrelationships : s.relationships.size = s.relationships.values.length :=
      s.relationships.length_values.symm
    exact ⟨hnodes, hnodes, hnodes.symm, hrelationships, hrelationships.symm⟩

/-- Two transactions side by side, with failed attempts between the creations. -/
def mixedHistory : List Operation :=
  let writing : Transaction := ⟨⟨1⟩, .readWrite⟩
  let reading : Transaction := ⟨⟨2⟩, .readOnly⟩
  [.begin .readWrite, .begin .readOnly,
    .createNode writing ["A", "A"] .empty, .createNode reading ["B"] .empty,
    .createRelationship writing ⟨1⟩ ⟨2⟩ "KNOWS" .empty, .rollback writing,
    .createNode writing [] .empty, .createRelationship writing ⟨1⟩ ⟨2⟩ "KNOWS" .empty,
    .setNodeProperty writing ⟨1⟩ "name" (.string "a"), .setNodeProperty writing ⟨3⟩ "name" .null]

theorem numbered_in_mixedHistory :
    NumbersSuffice (empty.trace mixedHistory) ∧
      (begunTransactions (empty.trace mixedHistory)).length < 2 ^ 64 ∧
      (empty.run mixedHistory).allNodes.map Node.id =
        createdNodes (empty.trace mixedHistory) := by
  have room : NumbersSuffice (empty.trace mixedHistory) := by
    constructor <;> decide
  have begins : (begunTransactions (empty.trace mixedHistory)).length < 2 ^ 64 := by decide
  exact ⟨room, begins, (numbered_in_order_of_creation mixedHistory room begins).1.in_order⟩

end Store

end PropertyGraph
