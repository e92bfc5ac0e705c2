import PropertyGraph.Proofs.Policy.Conjunction

/-!
# A point of view only narrows

A policy on relationships answers two questions, and nothing in its making ties the two answers
together: a policy of one's own can answer them as it likes.  The policies of the library do not.
Each leaf that is no such stranger answers from a point of view what it answers plainly, except that
a leaf with a direction also asks to see the relationship in this direction.  Both questions reach
the leaves of a composite unchanged, so the same holds of any tree over these leaves: from a point
of view it includes what it includes plainly and what all its directions see from there.

What a direction sees depends on the ends alone.  A loop is seen from its node in every direction,
an end sees a relationship in both directions together, and any other node sees nothing.

* `seenFrom_loop`, `seenFrom_both`, `seenFrom_elsewhere` — what a direction sees;
* `includesFrom_eq_and` — the answer from a point of view is the plain one, narrowed by what the
  directions in the tree see;
* `point_of_view_narrows` — when the two answers agree, and when the second one is always no.
-/

namespace PropertyGraph

/-- A node is an end of a relationship. -/
def Relationship.HasEnd (r : Relationship) (v : NodeId) : Prop := r.source = v ∨ r.target = v

/-- A relationship leads from a node back to the same node. -/
def Relationship.LoopsAt (r : Relationship) (v : NodeId) : Prop := r.source = v ∧ r.target = v

namespace RelationshipPolicy

/-! ## What a direction sees -/

section Sight

variable {r : Relationship} {v : NodeId}

theorem seenFrom_loop (h : r.LoopsAt v) (direction : Direction) :
    seenFrom direction r v = true := by
  obtain ⟨hsource, htarget⟩ := h
  simp only [seenFrom, Relationship.directionFrom, if_pos hsource, if_pos htarget]
  cases direction <;> rfl

theorem seenFrom_both (h : r.HasEnd v) : seenFrom .both r v = true := by
  by_cases hsource : r.source = v
  · by_cases htarget : r.target = v
    · exact seenFrom_loop ⟨hsource, htarget⟩ .both
    · simp only [seenFrom, Relationship.directionFrom, if_pos hsource, if_neg htarget]
      rfl
  · have htarget : r.target = v := h.resolve_left hsource
    simp only [seenFrom, Relationship.directionFrom, if_neg hsource, if_pos htarget]
    rfl

theorem seenFrom_elsewhere (h : ¬ r.HasEnd v) (direction : Direction) :
    seenFrom direction r v = false := by
  obtain ⟨hsource, htarget⟩ := not_or.1 h
  simp only [seenFrom, Relationship.directionFrom, if_neg hsource, if_neg htarget]

end Sight

/-! ## Leaves -/

/-- The leaves whose two answers belong together: the presets, the filter by type and direction, and
every policy that leaves the question from a point of view at the plain answer. -/
inductive Ordinary : RelationshipPolicy → Prop
  | all : Ordinary .all
  | none : Ordinary .none
  | types (names : NameSet) (direction : Direction) : Ordinary (.types names direction)
  | custom (name : String) (accepts : Relationship → Bool) : Ordinary (.custom name accepts)

/-- Whether the direction of a leaf, if it has one, sees a relationship from a node. -/
def sees (r : Relationship) (v : NodeId) : RelationshipPolicy → Bool
  | .types _ direction => seenFrom direction r v
  | _ => true

/-- A leaf filters by type and direction. -/
def HasDirection (leaf : RelationshipPolicy) (direction : Direction) : Prop :=
  ∃ names, leaf = .types names direction

theorem Ordinary.includesFrom_eq {leaf : RelationshipPolicy} (h : leaf.Ordinary)
    (r : Relationship) (v : NodeId) :
    leaf.includesFrom r v = (leaf.includes r && sees r v leaf) := by
  cases h with
  | types names direction => rfl
  | all => rfl
  | none => rfl
  | custom name accepts => exact (Bool.and_true _).symm

/-- A leaf sees a relationship if its direction does, whichever it has. -/
theorem sees_of_direction {r : Relationship} {v : NodeId} (leaf : RelationshipPolicy)
    (h : ∀ direction, leaf.HasDirection direction → seenFrom direction r v = true) :
    sees r v leaf = true := by
  cases leaf with
  | types names direction => exact h direction ⟨names, rfl⟩
  | _ => rfl

/-! ## Trees -/

/-- **From a point of view a policy answers as it does plainly, unless one of its directions does
not see the relationship from there.** -/
theorem includesFrom_eq_and {p : RelationshipPolicy} (ordinary : ∀ leaf ∈ p.leaves, leaf.Ordinary)
    (r : Relationship) (v : NodeId) :
    p.includesFrom r v = (p.includes r && p.leaves.all (sees r v)) := by
  have hfrom : p.includesFrom r v = p.leaves.all fun leaf => leaf.includesFrom r v :=
    (judges_includesFrom r v).eq_all_leaves p
  have hplain : p.includes r = p.leaves.all fun leaf => leaf.includes r :=
    (judges_includes r).eq_all_leaves p
  have hleaf : ∀ leaf ∈ p.leaves,
      (leaf.includesFrom r v = true ↔ leaf.includes r = true ∧ sees r v leaf = true) := by
    intro leaf hmem
    rw [(ordinary leaf hmem).includesFrom_eq, Bool.and_eq_true]
  rw [hfrom, hplain, Bool.eq_iff_iff, Bool.and_eq_true]
  simp only [List.all_eq_true]
  constructor
  · intro h
    exact ⟨fun leaf hmem => ((hleaf leaf hmem).1 (h leaf hmem)).1,
      fun leaf hmem => ((hleaf leaf hmem).1 (h leaf hmem)).2⟩
  · rintro ⟨hincludes, hsees⟩ leaf hmem
    exact (hleaf leaf hmem).2 ⟨hincludes leaf hmem, hsees leaf hmem⟩

/-- Where all directions of a tree see a relationship, its two answers agree. -/
theorem includesFrom_eq_of_seen {p : RelationshipPolicy} {r : Relationship} {v : NodeId}
    (ordinary : ∀ leaf ∈ p.leaves, leaf.Ordinary)
    (seen : ∀ leaf ∈ p.leaves, ∀ direction, leaf.HasDirection direction →
      seenFrom direction r v = true) :
    p.includesFrom r v = p.includes r := by
  have hall : p.leaves.all (sees r v) = true := by
    rw [List.all_eq_true]
    exact fun leaf hmem => sees_of_direction leaf (seen leaf hmem)
  rw [includesFrom_eq_and ordinary, hall, Bool.and_true]

/-- **The answer from a point of view refines the plain one.**  In a tree over the presets, filters
by type and direction and policies without a view of their own, what is included from a point of
view is included plainly.  From the node of a loop the two answers agree, and from every end if the
tree has no direction but both; from a node that is no end nothing is included as soon as there is
one filter by type and direction. -/
theorem point_of_view_narrows (p : RelationshipPolicy)
    (ordinary : ∀ leaf ∈ p.leaves, leaf.Ordinary) (r : Relationship) (v : NodeId) :
    (p.includesFrom r v = true → p.includes r = true) ∧
      (r.LoopsAt v → p.includesFrom r v = p.includes r) ∧
      (r.HasEnd v →
        (∀ leaf ∈ p.leaves, ∀ direction, leaf.HasDirection direction → direction = .both) →
        p.includesFrom r v = p.includes r) ∧
      (¬ r.HasEnd v → (∃ leaf ∈ p.leaves, ∃ direction, leaf.HasDirection direction) →
        p.includesFrom r v = false) := by
  refine ⟨?narrower, ?loop, ?both, ?elsewhere⟩
  case narrower =>
    intro h
    rw [includesFrom_eq_and ordinary, Bool.and_eq_true] at h
    exact h.1
  case loop =>
    intro hloop
    exact includesFrom_eq_of_seen ordinary fun _ _ direction _ => seenFrom_loop hloop direction
  case both =>
    intro hend hboth
    refine includesFrom_eq_of_seen ordinary fun leaf hmem direction hdirection => ?_
    rw [hboth leaf hmem direction hdirection]
    exact seenFrom_both hend
  case elsewhere =>
    rintro helsewhere ⟨leaf, hmem, direction, names, rfl⟩
    have hblind : sees r v (.types names direction) = false :=
      seenFrom_elsewhere helsewhere direction
    have hall : p.leaves.all (sees r v) = false := by
      rw [List.all_eq_false]
      exact ⟨_, hmem, by simp [hblind]⟩
    rw [includesFrom_eq_and ordinary, hall, Bool.and_false]

/-- A tree with every kind of ordinary leaf but one that includes nothing. -/
def mixedPolicy (direction : Direction) : RelationshipPolicy :=
  .allOf [.all, .shared (.allOf [.types .empty direction, .custom "Typed" fun r => r.type != ""])]

/-- A relationship that leads from a node to itself. -/
def likesItself : Relationship := ⟨⟨2⟩, ⟨1⟩, ⟨1⟩, "LIKES", .empty⟩

theorem leaves_mixedPolicy (direction : Direction) :
    (mixedPolicy direction).leaves =
      [.all, .types .empty direction, .custom "Typed" fun r => r.type != ""] := by
  simp [mixedPolicy, leaves, leavesOfEach]

theorem mixedPolicy_from_each_side :
    (∀ direction, ∀ leaf ∈ (mixedPolicy direction).leaves, leaf.Ordinary) ∧
      likesItself.LoopsAt ⟨1⟩ ∧
      (mixedPolicy .outgoing).includesFrom likesItself ⟨1⟩ = true ∧
      knows.HasEnd ⟨2⟩ ∧ (mixedPolicy .both).includesFrom knows ⟨2⟩ = true ∧
      ¬ knows.HasEnd ⟨3⟩ ∧ (mixedPolicy .both).includesFrom knows ⟨3⟩ = false := by
  have ordinary : ∀ direction, ∀ leaf ∈ (mixedPolicy direction).leaves, leaf.Ordinary := by
    intro direction
    simp only [leaves_mixedPolicy, List.forall_mem_cons, List.not_mem_nil, false_implies,
      implies_true, and_true]
    exact ⟨.all, .types _ _, .custom _ _⟩
  have hboth : ∀ leaf ∈ (mixedPolicy .both).leaves, ∀ direction,
      leaf.HasDirection direction → direction = .both := by
    rw [leaves_mixedPolicy]
    rintro leaf hmem direction ⟨names, rfl⟩
    simp at hmem
    exact hmem.2
  have hdirected : ∃ leaf ∈ (mixedPolicy .both).leaves, ∃ direction, leaf.HasDirection direction :=
    ⟨.types .empty .both, by simp [leaves_mixedPolicy], .both, .empty, rfl⟩
  have hloop : likesItself.LoopsAt ⟨1⟩ := ⟨rfl, rfl⟩
  have hend : knows.HasEnd ⟨2⟩ := Or.inr rfl
  have helsewhere : ¬ knows.HasEnd ⟨3⟩ := by
    unfold Relationship.HasEnd
    decide
  refine ⟨ordinary, hloop, ?_, hend, ?_, helsewhere, ?_⟩
  · rw [(point_of_view_narrows _ (ordinary .outgoing) likesItself ⟨1⟩).2.1 hloop]
    decide
  · rw [(point_of_view_narrows _ (ordinary .both) knows ⟨2⟩).2.2.1 hend hboth]
    decide
  · exact (point_of_view_narrows _ (ordinary .both) knows ⟨3⟩).2.2.2 helsewhere hdirected

end RelationshipPolicy

end PropertyGraph
