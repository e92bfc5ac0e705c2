import PropertyGraph.Proofs.Json.SnapshotText
import PropertyGraph.Proofs.Store.Numbering
import PropertyGraph.Store.Scan

/-!
# What is read from a store

A reading asks a store for the elements that a policy includes, or for their snapshots, and the
store counts one transaction for it.  Whatever history led to the store, each element is filed under
its own id and each relationship has a type, so a reading gives the included elements in the order
of their ids, and every snapshot of a relationship comes back from its text.

A snapshot is later compared with the element that is live then.  Of a node only the properties can
have changed: its labels stay as they were created, as long as the numbers of 64 bits suffice and no
other node is created under its id.  So the properties alone decide whether the snapshot still
matches.

* `Filed`, `Filed.step`, `filed_run` — elements under their own ids, relationships with a type;
* `selects_filter` — what a scan selects of a table whose elements are filed;
* `labels_step`, `labels_run` — a node stays, and its labels do unless its id is handed out again;
* `not_created_again` — no id is handed out again while the numbers suffice;
* `readings_of_a_store` — what the four readings give, and what becomes of the snapshots.
-/

namespace PropertyGraph

open Numbered Json

/-! ## Elements under their own ids -/

namespace Store

/-- Every element is filed under its own id, and every relationship has a type. -/
structure Filed (s : Store) : Prop where
  nodes : ∀ id n, s.nodes.get? id = some n → n.id = id
  relationships : ∀ id r, s.relationships.get? id = some r → r.id = id
  typed : ∀ id r, s.relationships.get? id = some r → r.type ≠ ""

variable {s t : Store} {op : Operation} {answer : Except Error Reply}

/-- **Every step keeps the elements filed**, even if an id is handed out twice. -/
theorem Filed.step (h : Filed s) (hstep : s.Step op answer t) : Filed t := by
  obtain ⟨hnodes, hrelationships, htyped⟩ := h
  cases hstep with
  | begin mode => exact ⟨hnodes, hrelationships, htyped⟩
  | createNode labels properties writable =>
    exact ⟨OrderedMap.forall_get?_insert hnodes rfl, hrelationships, htyped⟩
  | createRelationship properties writable typed hasSource hasTarget =>
    exact ⟨hnodes, OrderedMap.forall_get?_insert hrelationships rfl,
      OrderedMap.forall_get?_insert htyped typed⟩
  | @setNodeProperty tx id n key value writable found =>
    have hid : n.id = id := hnodes id n found
    exact ⟨OrderedMap.forall_get?_insert hnodes hid, hrelationships, htyped⟩
  | @setRelationshipProperty tx id r key value writable found =>
    have hid : r.id = id := hrelationships id r found
    have htype : r.type ≠ "" := htyped id r found
    exact ⟨hnodes, OrderedMap.forall_get?_insert hrelationships hid,
      OrderedMap.forall_get?_insert htyped htype⟩
  | refuse cause objected => exact ⟨hnodes, hrelationships, htyped⟩
  | pass reply quiet old => exact ⟨hnodes, hrelationships, htyped⟩

theorem filed_run (history : List Operation) : Filed (empty.run history) := by
  refine run_induction (motive := fun _ s => Filed s) ⟨nofun, nofun, nofun⟩ ?_ history
  intro events s t op answer h hstep
  exact h.step hstep

end Store

/-! ## What a scan selects -/

/-- A list selects the elements that are asked for from those that can be found: each of them once,
in the order of their ids. -/
structure Selects {ι η : Type} [Numbered ι] (find : ι → Option η) (idOf : η → ι)
    (asked : η → Bool) (selected : List η) : Prop where
  found : ∀ e ∈ selected, find (idOf e) = some e
  mem_iff : ∀ id e, find id = some e → (e ∈ selected ↔ asked e = true)
  increasing : selected.Pairwise fun a b => ordinal (idOf a) < ordinal (idOf b)

theorem selects_filter {ι η : Type} [Numbered ι] [DecidableEq ι] {table : OrderedMap ι η}
    {idOf : η → ι} (filed : ∀ id e, table.get? id = some e → idOf e = id) (asked : η → Bool) :
    Selects table.get? idOf asked (table.values.filter asked) where
  found := by
    intro e he
    obtain ⟨id, hid⟩ := (table.mem_values_iff e).1 (List.mem_filter.1 he).1
    rwa [filed id e hid]
  mem_iff := by
    intro id e hid
    have hvalue : e ∈ table.values := (table.mem_values_iff e).2 ⟨id, hid⟩
    rw [List.mem_filter]
    exact ⟨And.right, And.intro hvalue⟩
  increasing := by
    have hkeys : (table.values.map idOf).Pairwise fun a b => compare a b = .lt := by
      rw [table.map_values_of_keyed filed]
      exact List.pairwise_map.2 table.increasing
    refine List.Pairwise.filter asked ?_
    exact (List.pairwise_map.1 hkeys).imp fun h => compare_eq_lt.1 h

/-! ## Later comparison -/

theorem NodeSnapshot.ofNode_matches_iff {n m : Node} (h : m.labels = n.labels) :
    (NodeSnapshot.ofNode n).matchesNode m = true ↔
      (∀ key, key ∈ (NodeSnapshot.ofNode n).properties.keys ↔ key ∈ m.properties.keys) ∧
        ∀ key v, m.properties.get? key = some v →
          (NodeSnapshot.ofNode n).properties.get? key = some v.text := by
  rw [← TextMap.eq_ofLive_iff, ← TextMap.matchesLive_iff_eq]
  simp [matchesNode, ofNode, ofNodeWith, make, h]

namespace Store

variable {s t : Store} {op : Operation} {answer : Except Error Reply} {id : NodeId} {n : Node}

/-- A node that is there stays there, and only a step that hands out its id again can change its
labels. -/
theorem labels_step (hstep : s.Step op answer t) (found : s.node? id = some n) :
    ∃ m, t.node? id = some m ∧
      (Event.createdNode? ⟨op, answer⟩ ≠ some id → m.labels = n.labels) := by
  cases hstep with
  | createNode labels properties writable =>
    by_cases hid : id = ⟨s.nodesCreated + 1⟩
    · refine ⟨⟨id, labels, properties⟩, ?_, fun other => absurd (congrArg some hid.symm) other⟩
      rw [node?, OrderedMap.get?_insert, if_pos hid, hid]
    · refine ⟨n, ?_, fun _ => rfl⟩
      rw [node?, OrderedMap.get?_insert, if_neg hid]
      exact found
  | @setNodeProperty tx i k key value writable hold =>
    by_cases hid : id = i
    · have hsame : k = n := Option.some.inj (hold.symm.trans (hid ▸ found))
      refine ⟨k.setProperty key value, ?_, fun _ => ?_⟩
      · rw [node?, OrderedMap.get?_insert, if_pos hid]
      · show k.labels = n.labels
        rw [hsame]
    · refine ⟨n, ?_, fun _ => rfl⟩
      rw [node?, OrderedMap.get?_insert, if_neg hid]
      exact found
  | _ => exact ⟨n, found, fun _ => rfl⟩

theorem labels_run (later : List Operation) (found : s.node? id = some n) :
    ∃ m, (s.run later).node? id = some m ∧
      (id ∉ createdNodes (s.trace later) → m.labels = n.labels) := by
  induction later generalizing s n with
  | nil => exact ⟨n, found, fun _ => rfl⟩
  | cons op rest ih =>
    have hsplit : createdNodes (s.trace (op :: rest)) =
        (Event.createdNode? ⟨op, (s.perform op).1⟩).toList ++
          createdNodes ((s.perform op).2.trace rest) := by
      cases h : Event.createdNode? ⟨op, (s.perform op).1⟩ <;> simp [createdNodes, trace, h]
    obtain ⟨m, hm, hlabels⟩ := labels_step (s.step_perform op) found
    obtain ⟨k, hk, hsame⟩ := ih hm
    refine ⟨k, hk, fun others => ?_⟩
    rw [hsplit, List.mem_append, not_or, Option.mem_toList] at others
    obtain ⟨hfirst, hrest⟩ := others
    exact (hsame hrest).trans (hlabels hfirst)

/-- **While the numbers suffice, no id of a node is handed out again.** -/
theorem not_created_again (history later : List Operation)
    (room : NumbersSuffice (empty.trace (history ++ later)))
    (found : (empty.run history).node? id ≠ none) :
    id ∉ createdNodes ((empty.run history).trace later) := by
  have htrace := trace_append empty history later
  have hnodes : createdNodes (empty.trace (history ++ later)) =
      createdNodes (empty.trace history) ++ createdNodes ((empty.run history).trace later) := by
    rw [htrace, createdNodes, List.filterMap_append]
    rfl
  have hroom : NumbersSuffice (empty.trace history) := by
    obtain ⟨hfirst, hsecond⟩ := room
    rw [htrace] at hfirst hsecond
    simp only [createdNodes, createdRelationships, List.filterMap_append, List.length_append]
      at hfirst hsecond
    exact ⟨by unfold createdNodes; omega, by unfold createdRelationships; omega⟩
  have hcreated : id ∈ createdNodes (empty.trace history) := by
    rw [← (orderly_run history hroom).nodes.keys, OrderedMap.mem_keys_iff]
    exact Option.isSome_iff_ne_none.2 found
  have hdistinct : (createdNodes (empty.trace (history ++ later))).Nodup := by
    refine List.Nodup.of_map ordinal ?_
    rw [(orderly_run (history ++ later) room).nodes.counted]
    exact List.nodup_range'
  rw [hnodes, List.nodup_append] at hdistinct
  exact fun hagain => hdistinct.2.2 id hcreated id hagain rfl

/-! ## The four readings -/

/-- **What is read from a store**, whatever history led to it.  A reading selects the elements that
the policy includes, by its plain answer, and gives them or their snapshots one for one; the store
counts a transaction for it and is left as it was otherwise.  Each snapshot matches its live
element, and that of a relationship has a type and comes back from its text.  After any further
history there is still a node under the id of each node that was read.  While the numbers suffice it
is the same one, and the snapshot matches it just if it has the keys of the snapshot, each with the
text that the snapshot recorded.  The numbers suffice for every store that there can be.  Each
element takes a number and stays in the store from then on, so they run out only where `2 ^ 64`
elements of a kind are held at once, and these have more bytes than there are addresses of 64 bits.
Nothing else that is said here depends on it. -/
theorem readings_of_a_store (history : List Operation) (p : NodePolicy) (q : RelationshipPolicy) :
    let s := empty.run history
    let t := { s with transactionsBegun := s.transactionsBegun + 1 }
    Selects s.node? Node.id p.includes (s.readNodes p).1 ∧
      Selects s.relationship? Relationship.id q.includes (s.readRelationships q).1 ∧
      (s.nodeSnapshots p).1 = (s.readNodes p).1.map .ofNode ∧
      (s.relationshipSnapshots q).1 = (s.readRelationships q).1.map .ofRelationship ∧
      ((s.readNodes p).2 = t ∧ (s.readRelationships q).2 = t ∧ (s.nodeSnapshots p).2 = t ∧
        (s.relationshipSnapshots q).2 = t) ∧
      (∀ n ∈ (s.readNodes p).1,
        t.node? n.id = some n ∧ (NodeSnapshot.ofNode n).matchesNode n = true) ∧
      (∀ r ∈ (s.readRelationships q).1, t.relationship? r.id = some r ∧
        (RelationshipSnapshot.ofRelationship r).matchesRelationship r = true) ∧
      (∀ snapshot ∈ (s.relationshipSnapshots q).1, snapshot.type ≠ "" ∧
        decodeText RelationshipSnapshot.decoder snapshot.document.text = .ok snapshot) ∧
      ∀ later, ∀ n ∈ (s.readNodes p).1, ∃ m, (t.run later).node? n.id = some m ∧
        (NumbersSuffice (empty.trace (history ++ .begin .readOnly :: later)) →
          ((NodeSnapshot.ofNode n).matchesNode m = true ↔
            (∀ key, key ∈ (NodeSnapshot.ofNode n).properties.keys ↔ key ∈ m.properties.keys) ∧
              ∀ key v, m.properties.get? key = some v →
                (NodeSnapshot.ofNode n).properties.get? key = some v.text)) := by
  intro s t
  have hfiled : Filed s := filed_run history
  have hnodes : Selects s.node? Node.id p.includes (s.readNodes p).1 :=
    selects_filter hfiled.nodes p.includes
  have hrelationships : Selects s.relationship? Relationship.id q.includes
      (s.readRelationships q).1 := selects_filter hfiled.relationships q.includes
  refine ⟨hnodes, hrelationships, rfl, rfl, ⟨rfl, rfl, rfl, rfl⟩, ?node, ?relationship, ?text,
    ?later⟩
  case node =>
    intro n hn
    have hmatches := (NodeSnapshot.ofNode_matches_iff rfl).2
      ((TextMap.eq_ofLive_iff _ n.properties).1 rfl)
    exact ⟨hnodes.found n hn, hmatches⟩
  case relationship =>
    intro r hr
    have hmatches : (RelationshipSnapshot.ofRelationship r).matchesRelationship r = true := by
      have htexts := (TextMap.matchesLive_iff_eq _ r.properties).2 rfl
      simp [RelationshipSnapshot.matchesRelationship, RelationshipSnapshot.ofRelationship,
        RelationshipSnapshot.ofRelationshipWith, htexts]
    exact ⟨hrelationships.found r hr, hmatches⟩
  case text =>
    intro snapshot hsnapshot
    obtain ⟨r, hr, rfl⟩ := List.mem_map.1 hsnapshot
    have htyped : r.type ≠ "" := hfiled.typed r.id r (hrelationships.found r hr)
    refine ⟨htyped, ?_⟩
    rw [decodeText_text, nestingLimit, RelationshipSnapshot.decoder_document _ 125]
    exact if_neg htyped
  case later =>
    intro later n hn
    have hbegun : empty.run (history ++ [.begin .readOnly]) = t :=
      run_concat empty history (.begin .readOnly)
    have hfound : t.node? n.id = some n := hnodes.found n hn
    obtain ⟨m, hm, hlabels⟩ := labels_run later hfound
    refine ⟨m, hm, fun room => ?_⟩
    have hroom : NumbersSuffice (empty.trace ((history ++ [.begin .readOnly]) ++ later)) := by
      simpa using room
    have hbefore : (empty.run (history ++ [.begin .readOnly])).node? n.id ≠ none := by
      simp [hbegun, hfound]
    have hothers := not_created_again (history ++ [.begin .readOnly]) later hroom hbefore
    rw [hbegun] at hothers
    exact NodeSnapshot.ofNode_matches_iff (hlabels hothers)

/-- Another name for a node that is there, and a new node. -/
def laterHistory : List Operation :=
  [.setNodeProperty ⟨⟨1⟩, .readWrite⟩ ⟨1⟩ "name" (.string "b"),
    .createNode ⟨⟨1⟩, .readWrite⟩ ["B"] .empty]

theorem readings_in_mixedHistory :
    let s := empty.run mixedHistory
    let t := { s with transactionsBegun := s.transactionsBegun + 1 }
    let n : Node := ⟨⟨1⟩, ["A", "A"], OrderedMap.empty.insert "name" (.string "a")⟩
    NumbersSuffice (empty.trace (mixedHistory ++ .begin .readOnly :: laterHistory)) ∧
      n ∈ (s.readNodes .all).1 ∧
      ∃ m, (t.run laterHistory).node? n.id = some m ∧
        (NodeSnapshot.ofNode n).matchesNode m = false := by
  intro s t n
  have room : NumbersSuffice (empty.trace (mixedHistory ++ .begin .readOnly :: laterHistory)) := by
    constructor <;> decide
  obtain ⟨hnodes, -, -, -, -, -, -, -, hlater⟩ := readings_of_a_store mixedHistory .all .all
  have hmem : n ∈ (s.readNodes .all).1 := (hnodes.mem_iff ⟨1⟩ n rfl).2 rfl
  obtain ⟨m, hm, hlive⟩ := hlater laterHistory n hmem
  have hmatches := hlive room
  refine ⟨room, hmem, m, hm, Bool.eq_false_iff.2 fun h => ?_⟩
  have hname : m.properties.get? "name" = some (.string "b") := by
    obtain rfl := Option.some.inj hm
    rfl
  have htext := (hmatches.1 h).2 "name" (.string "b") hname
  exact absurd htext (by decide)

end Store

end PropertyGraph
