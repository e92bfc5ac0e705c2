import PropertyGraph.Collection.Interleaving
import PropertyGraph.Proofs.Store.Journal

/-!
# Property writes to different places commute

A property write goes to one place, which is a key of a node or of a relationship.  It is refused if
its transaction only reads or if the element is not there, and otherwise it changes the value at its
place.  It neither creates nor removes an element.  So no property write decides whether another one
is refused, and two of them that go to different places can change their order.

If two sequences of property writes have no place in common, it therefore does not matter how they
are interleaved: every call is answered as if it came first, the store at the end is the same, and
each place has the value that its own sequence gave it last.

* `perform_write_answer`, `written_eq` — what a property write answers and what it leaves behind;
* `written_comm` — the step: writes to different places change their order;
* `run_interleaving`, `trace_writes` — the run: every interleaving leads to the same store, and each
  call has the answer that the store at the start gives it;
* `valueAt_run` — the value at a place is the one that was written there last;
* `independent_writes_commute` — all of this together.
-/

namespace PropertyGraph

/-! ## Places in one table -/

namespace OrderedMap

variable {κ ν : Type} [Ord κ] [DecidableEq κ] [Std.TransOrd κ] [Std.LawfulEqOrd κ]

/-- The map with the value of a key changed, if it has one. -/
def modify (m : OrderedMap κ ν) (k : κ) (f : ν → ν) : OrderedMap κ ν :=
  match m.get? k with
  | some v => m.insert k (f v)
  | none => m

theorem get?_modify (m : OrderedMap κ ν) (k i : κ) (f : ν → ν) :
    (m.modify k f).get? i = if i = k then (m.get? k).map f else m.get? i := by
  unfold modify
  cases hfound : m.get? k with
  | some v => rw [get?_insert, Option.map_some]
  | none =>
    by_cases hi : i = k
    · rw [if_pos hi, hi, hfound, Option.map_none]
    · rw [if_neg hi]

/-- A change of a value changes no key. -/
theorem isSome_get?_modify (m : OrderedMap κ ν) (k i : κ) (f : ν → ν) :
    ((m.modify k f).get? i).isSome = (m.get? i).isSome := by
  rw [get?_modify]
  by_cases hi : i = k
  · rw [if_pos hi, hi, Option.isSome_map]
  · rw [if_neg hi]

theorem insert_comm (m : OrderedMap κ ν) {k j : κ} (h : k ≠ j) (v w : ν) :
    (m.insert k v).insert j w = (m.insert j w).insert k v := by
  refine ext_get? fun i => ?_
  simp only [get?_insert]
  by_cases hj : i = j
  · have hk : i ≠ k := fun hik => h (hik.symm.trans hj)
    rw [if_pos hj, if_neg hk, if_pos hj]
  · rw [if_neg hj, if_neg hj]

/-- Changes at different keys commute, and so do changes that commute on every value. -/
theorem modify_comm (m : OrderedMap κ ν) {k j : κ} {f g : ν → ν}
    (h : k = j → ∀ v, g (f v) = f (g v)) :
    (m.modify k f).modify j g = (m.modify j g).modify k f := by
  refine ext_get? fun i => ?_
  simp only [get?_modify]
  by_cases hkj : k = j
  · subst hkj
    by_cases hi : i = k
    · simp only [if_pos hi, if_true, Option.map_map]
      exact congrArg (fun e => (m.get? k).map e) (funext (h rfl))
    · simp only [if_neg hi]
  · by_cases hj : i = j
    · have hk : i ≠ k := fun hik => hkj (hik.symm.trans hj)
      simp only [if_pos hj, if_neg hk, if_neg (Ne.symm hkj)]
    · simp only [if_neg hj, if_neg hkj]

end OrderedMap

/-! ## One write -/

/-- A place that a property write can go to. -/
inductive Slot where
  | node (id : NodeId) (key : String)
  | relationship (id : RelationshipId) (key : String)
  deriving DecidableEq

/-- A property that is to be set through a transaction. -/
structure PropertyWrite where
  tx : Transaction
  slot : Slot
  value : Value

/-- The operation that sets the property. -/
def PropertyWrite.operation (w : PropertyWrite) : Operation :=
  match w.slot with
  | .node id key => .setNodeProperty w.tx id key w.value
  | .relationship id key => .setRelationshipProperty w.tx id key w.value

/-- The operations of several writes. -/
def operations (ws : List PropertyWrite) : List Operation := ws.map PropertyWrite.operation

/-- The error for a place whose element is not there. -/
def Slot.absent : Slot → Error
  | .node id _ => .noNode id
  | .relationship id _ => .noRelationship id

namespace Store

/-- Whether the element that a place belongs to is there. -/
def has (s : Store) : Slot → Bool
  | .node id _ => (s.node? id).isSome
  | .relationship id _ => (s.relationship? id).isSome

/-- The value at a place. -/
def valueAt (s : Store) : Slot → Option Value
  | .node id key => (s.node? id).bind fun n => n.properties.get? key
  | .relationship id key => (s.relationship? id).bind fun r => r.properties.get? key

/-- The store with another value at a place, if its element is there. -/
def assign (s : Store) (slot : Slot) (value : Value) : Store :=
  match slot with
  | .node id key => { s with nodes := s.nodes.modify id (·.setProperty key value) }
  | .relationship id key =>
    { s with relationships := s.relationships.modify id (·.setProperty key value) }

/-- The store after a write. -/
def written (s : Store) (w : PropertyWrite) : Store := (s.perform w.operation).2

/-- A write is refused by a transaction that only reads, else if the element is not there. -/
theorem perform_write_answer (s : Store) (w : PropertyWrite) :
    (s.perform w.operation).1 =
      if w.tx.mode = .readOnly then .error (.readOnly w.tx.id)
      else if s.has w.slot then .ok .done else .error w.slot.absent := by
  obtain ⟨tx, slot, value⟩ := w
  by_cases hmode : tx.mode = .readOnly
  · cases slot <;>
      simp [PropertyWrite.operation, perform, Operation.action, setNodeProperty_on,
        setRelationshipProperty_on, hmode]
  · cases slot with
    | node id key =>
      cases hfound : s.node? id <;>
        simp [PropertyWrite.operation, perform, Operation.action, setNodeProperty_on, hmode, has,
          hfound, Slot.absent]
    | relationship id key =>
      cases hfound : s.relationship? id <;>
        simp [PropertyWrite.operation, perform, Operation.action, setRelationshipProperty_on, hmode,
          has, hfound, Slot.absent]

/-- A write changes the value at its place and nothing else. -/
theorem written_eq (s : Store) (w : PropertyWrite) :
    s.written w = if w.tx.mode = .readOnly then s else s.assign w.slot w.value := by
  obtain ⟨tx, slot, value⟩ := w
  by_cases hmode : tx.mode = .readOnly
  · cases slot <;>
      simp [written, PropertyWrite.operation, perform, Operation.action, setNodeProperty_on,
        setRelationshipProperty_on, hmode]
  · cases slot with
    | node id key =>
      cases hfound : s.nodes.get? id <;>
        simp [written, PropertyWrite.operation, perform, Operation.action, setNodeProperty_on,
          hmode, node?, hfound, assign, OrderedMap.modify]
    | relationship id key =>
      cases hfound : s.relationships.get? id <;>
        simp [written, PropertyWrite.operation, perform, Operation.action,
          setRelationshipProperty_on, hmode, relationship?, hfound, assign, OrderedMap.modify]

/-! ## Two writes -/

theorem has_assign (s : Store) (slot other : Slot) (value : Value) :
    (s.assign slot value).has other = s.has other := by
  cases slot with
  | node id key =>
    cases other with
    | node i k => exact s.nodes.isSome_get?_modify id i _
    | relationship i k => rfl
  | relationship id key =>
    cases other with
    | node i k => rfl
    | relationship i k => exact s.relationships.isSome_get?_modify id i _

/-- No write creates or removes an element. -/
theorem has_written (s : Store) (w : PropertyWrite) (slot : Slot) :
    (s.written w).has slot = s.has slot := by
  rw [written_eq]
  split
  · rfl
  · exact s.has_assign w.slot slot w.value

/-- A write is answered alike before and after another one, wherever the two go. -/
theorem perform_written_answer (s : Store) (v w : PropertyWrite) :
    ((s.written v).perform w.operation).1 = (s.perform w.operation).1 := by
  rw [perform_write_answer, perform_write_answer, has_written]

end Store

theorem Node.setProperty_comm (n : Node) {k j : String} (h : k ≠ j) (v w : Value) :
    (n.setProperty k v).setProperty j w = (n.setProperty j w).setProperty k v := by
  simp only [setProperty, n.properties.insert_comm h]

theorem Relationship.setProperty_comm (r : Relationship) {k j : String} (h : k ≠ j)
    (v w : Value) : (r.setProperty k v).setProperty j w = (r.setProperty j w).setProperty k v := by
  simp only [setProperty, r.properties.insert_comm h]

namespace Store

/-- Values at different places can be set in either order. -/
theorem assign_comm (s : Store) {a b : Slot} (h : a ≠ b) (v w : Value) :
    (s.assign a v).assign b w = (s.assign b w).assign a v := by
  cases a with
  | node id key =>
    cases b with
    | relationship other key' => rfl
    | node other key' =>
      have hnodes := s.nodes.modify_comm (k := id) (j := other) (f := (·.setProperty key v))
        (g := (·.setProperty key' w)) fun hid n => n.setProperty_comm
          (fun hkey => h (by rw [hid, hkey])) v w
      simp only [assign, hnodes]
  | relationship id key =>
    cases b with
    | node other key' => rfl
    | relationship other key' =>
      have hrelationships := s.relationships.modify_comm (k := id) (j := other)
        (f := (·.setProperty key v)) (g := (·.setProperty key' w)) fun hid r => r.setProperty_comm
          (fun hkey => h (by rw [hid, hkey])) v w
      simp only [assign, hrelationships]

/-- **Writes to different places commute.** -/
theorem written_comm (s : Store) {a b : PropertyWrite} (h : a.slot ≠ b.slot) :
    (s.written a).written b = (s.written b).written a := by
  simp only [written_eq]
  by_cases ha : a.tx.mode = .readOnly
  · simp only [if_pos ha]
  · by_cases hb : b.tx.mode = .readOnly
    · simp only [if_pos hb]
    · simp only [if_neg ha, if_neg hb]
      exact s.assign_comm h a.value b.value

/-! ## Many writes -/

theorem run_operations_cons (s : Store) (w : PropertyWrite) (ws : List PropertyWrite) :
    s.run (operations (w :: ws)) = (s.written w).run (operations ws) := rfl

/-- A write can be moved past writes to other places. -/
theorem run_written {b : PropertyWrite} {ws : List PropertyWrite} (s : Store)
    (apart : ∀ a ∈ ws, a.slot ≠ b.slot) :
    (s.written b).run (operations ws) = (s.run (operations ws)).written b := by
  induction ws generalizing s with
  | nil => rfl
  | cons a rest ih =>
    obtain ⟨ha, hrest⟩ := List.forall_mem_cons.1 apart
    rw [run_operations_cons, run_operations_cons, ← s.written_comm ha]
    exact ih (s.written a) hrest

/-- **Every interleaving leads to the same store**, namely to the one that the second sequence makes
of what the first one leaves behind. -/
theorem run_interleaving {first second merged : List PropertyWrite} (s : Store)
    (h : Interleaving first second merged)
    (apart : ∀ a ∈ first, ∀ b ∈ second, a.slot ≠ b.slot) :
    s.run (operations merged) = (s.run (operations first)).run (operations second) := by
  induction h generalizing s with
  | nil => rfl
  | left _ ih =>
    exact ih (s.written _) fun a ha => apart a (List.mem_cons_of_mem _ ha)
  | @right b first second merged _ ih =>
    have hrest : ∀ a ∈ first, ∀ c ∈ second, a.slot ≠ c.slot := fun a ha c hc =>
      apart a ha c (List.mem_cons_of_mem _ hc)
    have hpast : ∀ a ∈ first, a.slot ≠ b.slot := fun a ha => apart a ha b List.mem_cons_self
    rw [run_operations_cons, ih (s.written b) hrest, s.run_written hpast]
    rfl

/-- **Each call is answered as if it came first.** -/
theorem trace_writes (s : Store) (ws : List PropertyWrite) :
    s.trace (operations ws) = ws.map fun w => ⟨w.operation, (s.perform w.operation).1⟩ := by
  induction ws generalizing s with
  | nil => rfl
  | cons v rest ih =>
    have hrest := ih (s.written v)
    simp only [perform_written_answer] at hrest
    exact congrArg _ hrest

end Store

/-! ## The last write -/

/-- The value that was written last to a place. -/
def Slot.lastWritten (events : List Event) : Slot → Option Value
  | .node id key => Change.lastWritten (nodeJournal events) id key
  | .relationship id key => Change.lastWritten (relationshipJournal events) id key

namespace Slot

theorem lastWritten_append (slot : Slot) (first second : List Event) :
    slot.lastWritten (first ++ second) = (slot.lastWritten second).or (slot.lastWritten first) := by
  cases slot <;>
    simp only [lastWritten, nodeJournal, relationshipJournal, Change.lastWritten,
      List.filterMap_append, List.reverse_append, List.findSome?_append]

/-- A write that was refused wrote nothing. -/
theorem lastWritten_refused (slot : Slot) (op : Operation) (cause : Error) :
    slot.lastWritten [⟨op, .error cause⟩] = none := by
  cases slot <;> rfl

/-- A write that succeeded wrote its value to its place. -/
theorem lastWritten_done (slot : Slot) (w : PropertyWrite) :
    slot.lastWritten [⟨w.operation, .ok .done⟩] =
      if w.slot = slot then some w.value else none := by
  obtain ⟨tx, own, value⟩ := w
  cases own <;> cases slot <;>
    simp [lastWritten, nodeJournal, relationshipJournal, Change.lastWritten, Change.written?,
      PropertyWrite.operation, Event.nodeChange?, Event.relationshipChange?]

end Slot

namespace Store

/-- The properties in a table of elements after one property of one element has been set. -/
theorem bind_get?_modify {ι η : Type} [Ord ι] [DecidableEq ι] [Std.TransOrd ι]
    [Std.LawfulEqOrd ι] (table : OrderedMap ι η) {propertiesOf : η → PropertyMap} {set : η → η}
    {key : String} {value : Value}
    (hset : ∀ e, propertiesOf (set e) = (propertiesOf e).insert key value) (id i : ι) (k : String) :
    ((table.modify id set).get? i).bind (fun e => (propertiesOf e).get? k) =
      if (id = i ∧ key = k) ∧ (table.get? id).isSome = true then some value
      else (table.get? i).bind fun e => (propertiesOf e).get? k := by
  rw [OrderedMap.get?_modify]
  by_cases hi : i = id
  · subst hi
    rcases Option.eq_none_or_eq_some (table.get? i) with hnone | ⟨e, he⟩
    · simp [hnone]
    · simp [he, hset, OrderedMap.get?_insert, eq_comm]
  · simp [hi, Ne.symm hi]

theorem valueAt_assign (s : Store) (slot other : Slot) (value : Value) :
    (s.assign slot value).valueAt other =
      if slot = other ∧ s.has slot = true then some value else s.valueAt other := by
  cases slot with
  | node id key =>
    cases other with
    | relationship i k => simp [assign, valueAt, relationship?]
    | node i k =>
      simp only [Slot.node.injEq]
      exact bind_get?_modify s.nodes (fun _ => rfl) id i k
  | relationship id key =>
    cases other with
    | node i k => simp [assign, valueAt, node?]
    | relationship i k =>
      simp only [Slot.relationship.injEq]
      exact bind_get?_modify s.relationships (fun _ => rfl) id i k

/-- After a write a place has the value that was written to it, or else the one that it had. -/
theorem valueAt_written (s : Store) (w : PropertyWrite) (slot : Slot) :
    (s.written w).valueAt slot =
      (slot.lastWritten [⟨w.operation, (s.perform w.operation).1⟩]).or (s.valueAt slot) := by
  rw [written_eq, perform_write_answer]
  by_cases hmode : w.tx.mode = .readOnly
  · rw [if_pos hmode, if_pos hmode, Slot.lastWritten_refused, Option.none_or]
  rw [if_neg hmode, if_neg hmode, valueAt_assign]
  by_cases hhas : s.has w.slot = true
  · rw [if_pos hhas, Slot.lastWritten_done]
    by_cases hslot : w.slot = slot
    · rw [if_pos ⟨hslot, hhas⟩, if_pos hslot, Option.some_or]
    · rw [if_neg fun h => hslot h.1, if_neg hslot, Option.none_or]
  · rw [if_neg hhas, if_neg fun h => hhas h.2, Slot.lastWritten_refused, Option.none_or]

/-- **The last write to a place stays.** -/
theorem valueAt_run (s : Store) (ws : List PropertyWrite) (slot : Slot) :
    (s.run (operations ws)).valueAt slot =
      (slot.lastWritten (s.trace (operations ws))).or (s.valueAt slot) := by
  induction ws generalizing s with
  | nil => cases slot <;> rfl
  | cons w rest ih =>
    have htrace : s.trace (operations (w :: rest)) =
        [⟨w.operation, (s.perform w.operation).1⟩] ++ (s.written w).trace (operations rest) := rfl
    rw [run_operations_cons, ih (s.written w), htrace, Slot.lastWritten_append, Option.or_assoc,
      valueAt_written]

/-- Writes to other places leave a value as it was. -/
theorem valueAt_run_of_ne (s : Store) {ws : List PropertyWrite} {slot : Slot}
    (h : ∀ w ∈ ws, w.slot ≠ slot) : (s.run (operations ws)).valueAt slot = s.valueAt slot := by
  induction ws generalizing s with
  | nil => rfl
  | cons w rest ih =>
    obtain ⟨hw, hrest⟩ := List.forall_mem_cons.1 h
    rw [run_operations_cons, ih (s.written w) hrest, written_eq]
    by_cases hmode : w.tx.mode = .readOnly
    · rw [if_pos hmode]
    · rw [if_neg hmode, valueAt_assign, if_neg fun h => hw h.1]

/-- In an interleaving every place of the first sequence has the value that this sequence gives it.
-/
theorem valueAt_interleaving {first second merged : List PropertyWrite} (s : Store)
    (h : Interleaving first second merged)
    (apart : ∀ a ∈ first, ∀ b ∈ second, a.slot ≠ b.slot) {a : PropertyWrite} (ha : a ∈ first) :
    (s.run (operations merged)).valueAt a.slot =
      (a.slot.lastWritten (s.trace (operations first))).or (s.valueAt a.slot) := by
  have hothers : ∀ b ∈ second, b.slot ≠ a.slot := fun b hb => (apart a ha b hb).symm
  rw [s.run_interleaving h apart, valueAt_run_of_ne _ hothers, valueAt_run]

/-- **Independent property writes commute.**  If two sequences of property writes have no place in
common, then from any store all their interleavings lead to the same store.  Each call is answered
as if it came first, and so as in its own sequence alone; and each place has the value that was
written last to it in its own sequence, or its old one if no write to it succeeded. -/
theorem independent_writes_commute (s : Store) (first second : List PropertyWrite)
    (apart : ∀ a ∈ first, ∀ b ∈ second, a.slot ≠ b.slot) :
    ∀ merged, Interleaving first second merged →
      let t := s.run (operations merged)
      (∀ other, Interleaving first second other → s.run (operations other) = t) ∧
        s.trace (operations merged) =
          merged.map (fun w => ⟨w.operation, (s.perform w.operation).1⟩) ∧
        Interleaving (s.trace (operations first)) (s.trace (operations second))
          (s.trace (operations merged)) ∧
        (∀ a ∈ first, t.valueAt a.slot =
          (a.slot.lastWritten (s.trace (operations first))).or (s.valueAt a.slot)) ∧
        ∀ b ∈ second, t.valueAt b.slot =
          (b.slot.lastWritten (s.trace (operations second))).or (s.valueAt b.slot) := by
  intro merged h t
  refine ⟨?_, s.trace_writes merged, ?_, ?_, ?_⟩
  · intro other hother
    rw [s.run_interleaving hother apart, ← s.run_interleaving h apart]
  · simp only [trace_writes]
    exact h.map _
  · exact fun a ha => s.valueAt_interleaving h apart ha
  · exact fun b hb => s.valueAt_interleaving h.symm (fun b hb a ha => (apart a ha b hb).symm) hb

/-- Two writes to one key of a node, of which only the first succeeds. -/
def nameWrites : List PropertyWrite :=
  [⟨⟨⟨1⟩, .readWrite⟩, .node ⟨1⟩ "name", .string "a"⟩,
    ⟨⟨⟨2⟩, .readOnly⟩, .node ⟨1⟩ "name", .string "b"⟩]

/-- A write to another key of that node, and one to a node that is not there. -/
def otherWrites : List PropertyWrite :=
  [⟨⟨⟨3⟩, .readWrite⟩, .node ⟨1⟩ "age", .bool true⟩, ⟨⟨⟨3⟩, .readWrite⟩, .node ⟨9⟩ "name", .null⟩]

theorem nameWrites_among_otherWrites :
    let s := empty.run [.createNode ⟨⟨1⟩, .readWrite⟩ [] .empty]
    let merged := otherWrites.take 1 ++ nameWrites ++ otherWrites.drop 1
    (∀ a ∈ nameWrites, ∀ b ∈ otherWrites, a.slot ≠ b.slot) ∧
      Interleaving nameWrites otherWrites merged ∧
      (s.run (operations merged)).valueAt (.node ⟨1⟩ "name") = some (.string "a") ∧
      (s.run (operations merged)).valueAt (.node ⟨1⟩ "age") = some (.bool true) := by
  intro s merged
  have apart : ∀ a ∈ nameWrites, ∀ b ∈ otherWrites, a.slot ≠ b.slot := by
    decide
  have hmerged : Interleaving nameWrites otherWrites merged := .right (.left (.left (.right .nil)))
  obtain ⟨-, -, -, hnames, hothers⟩ :=
    independent_writes_commute s nameWrites otherWrites apart merged hmerged
  exact ⟨apart, hmerged, hnames _ List.mem_cons_self, hothers _ List.mem_cons_self⟩

end Store

end PropertyGraph
