import PropertyGraph.Store.Operation

/-!
# What one operation can do

Several things can speak against a write at once.  `Store.objections` lists them for each
operation, the weightiest first, each with the error that it would give and the text of that error;
the list is written down without regard to the order in which a write makes its checks.
`Store.Step` has one case for each thing that an operation can do with a store, and one for being
refused.

* `step_perform` — these are all the cases;
* `Step.answers` — what succeeds has the reply that fits it: whoever creates an element is told its
  id, and whoever begins a transaction is given it;
* `Step.perform_eq` — a write that can succeed does, in the one way there is;
* `perform_refusedBy` — an operation fails iff one of its objections holds, and then with the error
  of the first one that does;
* `perform_of_error` — an operation that fails leaves the store as it was.
-/

namespace PropertyGraph

/-! ## Objections -/

/-- A reason against an operation: when it holds, the cause that its error has, and the kind and the
message that go with that cause. -/
structure Objection where
  holds : Prop
  cause : Error
  kind : ErrorKind
  message : String
  kind_cause : cause.kind = kind
  message_cause : cause.message = message

/-- The answer is an error iff one of the objections holds, and it is that of the first one: its
cause, its kind and its message. -/
structure RefusedBy {α : Type} (answer : Except Error α) (objections : List Objection) :
    Prop where
  error_iff : (∃ e, answer = .error e) ↔ ∃ o ∈ objections, o.holds
  first : ∀ e, answer = .error e → ∃ before o after, objections = before ++ o :: after ∧
    (∀ p ∈ before, ¬ p.holds) ∧ o.holds ∧ e = o.cause ∧ e.kind = o.kind ∧ e.message = o.message

namespace RefusedBy

variable {α : Type} {answer : Except Error α} {o : Objection} {rest : List Objection}

theorem nil (a : α) : RefusedBy (.ok a) [] where
  error_iff := by simp
  first := by simp

theorem head {e : Error} (ho : o.holds) (hcause : e = o.cause) :
    RefusedBy (.error e : Except Error α) (o :: rest) where
  error_iff := ⟨fun _ => ⟨o, List.mem_cons_self, ho⟩, fun _ => ⟨e, rfl⟩⟩
  first := by
    intro e' he
    cases he
    subst hcause
    exact ⟨[], o, rest, rfl, by simp, ho, rfl, o.kind_cause, o.message_cause⟩

theorem tail (ho : ¬ o.holds) (h : RefusedBy answer rest) : RefusedBy answer (o :: rest) where
  error_iff := by simp [h.error_iff, ho]
  first := by
    intro e he
    obtain ⟨before, p, after, hsplit, hbefore, hp⟩ := h.first e he
    refine ⟨o :: before, p, after, by simp [hsplit], ?_, hp⟩
    intro q hq
    rcases List.mem_cons.1 hq with rfl | hq
    · exact ho
    · exact hbefore q hq

end RefusedBy

namespace Store

/-- The objection against writing through a transaction that only reads. -/
def readOnlyObjection (tx : Transaction) : Objection where
  holds := tx.mode = .readOnly
  cause := .readOnly tx.id
  kind := .transaction
  message := "Transaction error: tx-" ++ toString tx.id.number.toNat ++ " is read-only"
  kind_cause := rfl
  message_cause := Error.message_readOnly tx.id

/-- The objection against a relationship without a type. -/
def untypedObjection (type : String) : Objection where
  holds := type = ""
  cause := .emptyName .relationshipType
  kind := .invalidArgument
  message := "Invalid argument: relationship type must not be empty"
  kind_cause := rfl
  message_cause := rfl

/-- The objection against what is not there.  Its error names it, by what it is and its number. -/
def absentObjection (absent : Prop) (cause : Error) (what : String) (number : UInt64)
    (kind_cause : cause.kind = .notFound)
    (detail_cause : cause.detail = what ++ toString number.toNat) : Objection where
  holds := absent
  cause := cause
  kind := .notFound
  message := "Not found: " ++ what ++ toString number.toNat
  kind_cause := kind_cause
  message_cause := Error.message_notFound kind_cause detail_cause

/-- What speaks against an operation, in order of precedence.  Only writes can be refused. -/
def objections (s : Store) : Operation → List Objection
  | .createNode tx _ _ => [readOnlyObjection tx]
  | .createRelationship tx source target type _ =>
    [readOnlyObjection tx, untypedObjection type,
      absentObjection (s.node? source = none) (.noSource source) "Source node " source.number
        rfl rfl,
      absentObjection (s.node? target = none) (.noTarget target) "Target node " target.number
        rfl rfl]
  | .setNodeProperty tx id _ _ =>
    [readOnlyObjection tx,
      absentObjection (s.node? id = none) (.noNode id) "Node " id.number rfl rfl]
  | .setRelationshipProperty tx id _ _ =>
    [readOnlyObjection tx,
      absentObjection (s.relationship? id = none) (.noRelationship id) "Relationship " id.number
        rfl rfl]
  | _ => []

/-! ## Steps -/

/-- From a store, an operation can be answered so and leave that store behind. -/
inductive Step (s : Store) : Operation → Except Error Reply → Store → Prop
  | begin (mode : TransactionMode) :
      Step s (.begin mode) (.ok (.begun ⟨⟨s.transactionsBegun + 1⟩, mode⟩))
        { s with transactionsBegun := s.transactionsBegun + 1 }
  | createNode {tx : Transaction} (labels : List String) (properties : PropertyMap)
      (writable : tx.mode = .readWrite) :
      Step s (.createNode tx labels properties) (.ok (.createdNode ⟨s.nodesCreated + 1⟩))
        { s with
          nodes := s.nodes.insert ⟨s.nodesCreated + 1⟩
            ⟨⟨s.nodesCreated + 1⟩, labels, properties⟩
          nodesCreated := s.nodesCreated + 1 }
  | createRelationship {tx : Transaction} {source target : NodeId} {type : String}
      (properties : PropertyMap) (writable : tx.mode = .readWrite) (typed : type ≠ "")
      (hasSource : s.node? source ≠ none) (hasTarget : s.node? target ≠ none) :
      Step s (.createRelationship tx source target type properties)
        (.ok (.createdRelationship ⟨s.relationshipsCreated + 1⟩))
        { s with
          relationships := s.relationships.insert ⟨s.relationshipsCreated + 1⟩
            ⟨⟨s.relationshipsCreated + 1⟩, source, target, type, properties⟩
          relationshipsCreated := s.relationshipsCreated + 1 }
  | setNodeProperty {tx : Transaction} {id : NodeId} {n : Node} (key : String) (value : Value)
      (writable : tx.mode = .readWrite) (found : s.node? id = some n) :
      Step s (.setNodeProperty tx id key value) (.ok .done)
        { s with nodes := s.nodes.insert id (n.setProperty key value) }
  | setRelationshipProperty {tx : Transaction} {id : RelationshipId} {r : Relationship}
      (key : String) (value : Value) (writable : tx.mode = .readWrite)
      (found : s.relationship? id = some r) :
      Step s (.setRelationshipProperty tx id key value) (.ok .done)
        { s with relationships := s.relationships.insert id (r.setProperty key value) }
  | refuse {op : Operation} (cause : Error)
      (objected : RefusedBy (.error cause : Except Error Reply) (s.objections op)) :
      Step s op (.error cause) s
  | pass {op : Operation} (reply : Reply) (quiet : op.isWrite = false)
      (old : ∀ mode, op ≠ .begin mode) : Step s op (.ok reply) s

theorem writable_of_ne {tx : Transaction} (h : tx.mode ≠ .readOnly) : tx.mode = .readWrite := by
  cases hmode : tx.mode with
  | readOnly => exact absurd hmode h
  | readWrite => rfl

theorem not_readOnly {tx : Transaction} (h : tx.mode = .readWrite) :
    ¬ (readOnlyObjection tx).holds := by
  simp [readOnlyObjection, h]

/-- **Each operation takes one of the steps**: a write that is not refused does what its case
says, a new transaction is counted, and anything else leaves the store as it was. -/
theorem step_perform (s : Store) (op : Operation) :
    s.Step op (s.perform op).1 (s.perform op).2 := by
  cases op with
  | begin mode => exact .begin mode
  | commit tx => exact .pass .done rfl (by simp)
  | rollback tx => exact .pass .done rfl (by simp)
  | readNode tx id => exact .pass _ rfl (by simp)
  | readRelationship tx id => exact .pass _ rfl (by simp)
  | readAll tx => exact .pass _ rfl (by simp)
  | createNode tx labels properties =>
    simp only [perform, Operation.action, StoreAction.on_bind, createNode_on]
    by_cases hmode : tx.mode = .readOnly
    · simp only [if_pos hmode]
      exact .refuse _ (.head hmode rfl)
    · simp only [if_neg hmode]
      exact .createNode labels properties (writable_of_ne hmode)
  | createRelationship tx source target type properties =>
    simp only [perform, Operation.action, StoreAction.on_bind, createRelationship_on]
    by_cases hmode : tx.mode = .readOnly
    · simp only [if_pos hmode]
      exact .refuse _ (.head hmode rfl)
    simp only [if_neg hmode]
    by_cases htype : type = ""
    · simp only [if_pos htype]
      exact .refuse _ (.tail hmode (.head htype rfl))
    simp only [if_neg htype]
    by_cases hsource : s.node? source = none
    · simp only [if_pos hsource]
      exact .refuse _ (.tail hmode (.tail htype (.head hsource rfl)))
    simp only [if_neg hsource]
    by_cases htarget : s.node? target = none
    · simp only [if_pos htarget]
      exact .refuse _ (.tail hmode (.tail htype (.tail hsource (.head htarget rfl))))
    · simp only [if_neg htarget]
      exact .createRelationship properties (writable_of_ne hmode) htype hsource htarget
  | setNodeProperty tx id key value =>
    simp only [perform, Operation.action, StoreAction.on_bind, setNodeProperty_on]
    by_cases hmode : tx.mode = .readOnly
    · simp only [if_pos hmode]
      exact .refuse _ (.head hmode rfl)
    simp only [if_neg hmode]
    cases hfound : s.node? id with
    | none => exact .refuse _ (.tail hmode (.head hfound rfl))
    | some n => exact .setNodeProperty key value (writable_of_ne hmode) hfound
  | setRelationshipProperty tx id key value =>
    simp only [perform, Operation.action, StoreAction.on_bind, setRelationshipProperty_on]
    by_cases hmode : tx.mode = .readOnly
    · simp only [if_pos hmode]
      exact .refuse _ (.head hmode rfl)
    simp only [if_neg hmode]
    cases hfound : s.relationship? id with
    | none => exact .refuse _ (.tail hmode (.head hfound rfl))
    | some r => exact .setRelationshipProperty key value (writable_of_ne hmode) hfound

/-- **What succeeds has the reply that fits it.** -/
theorem Step.answers {s t : Store} {op : Operation} {reply : Reply}
    (h : s.Step op (.ok reply) t) : op.Answers reply := by
  cases h with
  | begin mode => exact .begin mode _
  | createNode labels properties writable => exact .createNode _ _ _ _
  | createRelationship properties writable typed hasSource hasTarget =>
    exact .createRelationship _ _ _ _ _ _
  | setNodeProperty key value writable found => exact .setNodeProperty _ _ _ _
  | setRelationshipProperty key value writable found => exact .setRelationshipProperty _ _ _ _
  | pass reply quiet old => exact .other reply quiet old

/-- A write that succeeds does what its step says. -/
theorem Step.perform_eq {s t : Store} {op : Operation} {reply : Reply}
    (h : s.Step op (.ok reply) t) (hwrite : op.isWrite = true) : s.perform op = (.ok reply, t) := by
  cases h with
  | begin mode => cases hwrite
  | pass reply quiet old => simp [quiet] at hwrite
  | createNode labels properties writable =>
    simp [perform, Operation.action, createNode_on, writable]
  | createRelationship properties writable typed hasSource hasTarget =>
    simp [perform, Operation.action, createRelationship_on, writable, typed, hasSource, hasTarget]
  | setNodeProperty key value writable found =>
    simp [perform, Operation.action, setNodeProperty_on, writable, found]
  | setRelationshipProperty key value writable found =>
    simp [perform, Operation.action, setRelationshipProperty_on, writable, found]

/-- An operation that fails leaves the store as it was. -/
theorem perform_of_error {s : Store} {op : Operation} {cause : Error}
    (h : (s.perform op).1 = .error cause) : (s.perform op).2 = s := by
  have hstep := s.step_perform op
  rw [h] at hstep
  generalize (s.perform op).2 = t at hstep
  cases hstep
  rfl

/-- The first objection that holds decides. -/
theorem perform_refusedBy (s : Store) (op : Operation) :
    RefusedBy (s.perform op).1 (s.objections op) := by
  have hstep := s.step_perform op
  generalize (s.perform op).1 = answer at hstep ⊢
  generalize (s.perform op).2 = t at hstep
  cases hstep with
  | begin mode => exact .nil _
  | createNode labels properties writable => exact .tail (not_readOnly writable) (.nil _)
  | createRelationship properties writable typed hasSource hasTarget =>
    exact .tail (not_readOnly writable) (.tail typed (.tail hasSource (.tail hasTarget (.nil _))))
  | setNodeProperty key value writable found =>
    exact .tail (not_readOnly writable) (.tail (by simp [absentObjection, found]) (.nil _))
  | setRelationshipProperty key value writable found =>
    exact .tail (not_readOnly writable) (.tail (by simp [absentObjection, found]) (.nil _))
  | refuse cause objected => exact objected
  | pass reply quiet old =>
    cases op <;> first | exact .nil _ | exact absurd quiet (by simp [Operation.isWrite])

end Store

end PropertyGraph
