import Mathlib.Data.List.Basic
import PropertyGraph.Proofs.Policy.Meaning
import PropertyGraph.Proofs.Policy.PointOfView

/-!
# Relationships the other way round

A direction counts from a point of view, and it counts by the ends of the relationship alone.  So a
policy cannot tell a relationship from its reverse once its own directions are reversed with it, in
whatever composite they stand; a policy of one's own could, since it sees the ends.

The two proper directions share out what there is to see.  An end sees a relationship in one of them
at least, which is what asking for both directions means, and only a loop is seen in the two of them.

* `seenFrom_reversed` — a reversed direction sees a reversed relationship;
* `leaves_reversed` — the leaves of a reversed policy;
* `directions_reverse_and_unite` — both facts for the answers of policies.
-/

namespace PropertyGraph

/-- The opposite direction. -/
def Direction.reversed : Direction → Direction
  | .outgoing => .incoming
  | .incoming => .outgoing
  | .both => .both

/-- The relationship with its source and its target swapped. -/
def Relationship.reversed (r : Relationship) : Relationship :=
  { r with source := r.target, target := r.source }

namespace RelationshipPolicy

/-! ## What the directions see -/

section Sight

variable (r : Relationship) (v : NodeId)

theorem seenFrom_reversed (direction : Direction) :
    seenFrom direction.reversed r.reversed v = seenFrom direction r v := by
  rw [Bool.eq_iff_iff, seenFrom_iff, seenFrom_iff]
  cases direction <;>
    simp [RelationshipRule.LeadsFrom, Direction.reversed, Relationship.reversed, or_comm]

theorem seenFrom_both_iff :
    seenFrom .both r v = true ↔ seenFrom .outgoing r v = true ∨ seenFrom .incoming r v = true := by
  simp [seenFrom_iff, RelationshipRule.LeadsFrom]

/-- Only a loop is seen in both proper directions. -/
theorem seenFrom_each_iff :
    seenFrom .outgoing r v = true ∧ seenFrom .incoming r v = true ↔ r.LoopsAt v := by
  rw [seenFrom_iff, seenFrom_iff, Relationship.LoopsAt, eq_comm (a := r.source),
    eq_comm (a := r.target)]
  simp [RelationshipRule.LeadsFrom]

end Sight

/-! ## Reversed policies -/

/-- The leaves that the library has itself. -/
inductive Native : RelationshipPolicy → Prop
  | all : Native .all
  | none : Native .none
  | types (names : NameSet) (direction : Direction) : Native (.types names direction)

mutual

/-- The policy with every direction in it reversed. -/
def reversed : RelationshipPolicy → RelationshipPolicy
  | .types names direction => .types names direction.reversed
  | .allOf members => .allOf (reversedEach members)
  | .shared policy => .shared (reversed policy)
  | leaf => leaf

/-- Several policies with every direction reversed. -/
def reversedEach : List RelationshipPolicy → List RelationshipPolicy
  | [] => []
  | p :: ps => reversed p :: reversedEach ps

end

theorem reversedEach_eq_map (ps : List RelationshipPolicy) :
    reversedEach ps = ps.map reversed := by
  induction ps with
  | nil => rfl
  | cons p ps ih => rw [reversedEach, ih, List.map_cons]

/-- **The leaves of a reversed policy are its leaves reversed.** -/
theorem leaves_reversed (p : RelationshipPolicy) :
    p.reversed.leaves = p.leaves.map reversed := by
  induction p using tree_induction with
  | conjunction members ih =>
    simp only [reversed, leaves, leavesOfEach_eq_flatMap, reversedEach_eq_map, List.flatMap_map,
      List.map_flatMap]
    exact List.flatMap_congr ih
  | pointer p ih => rw [reversed, leaves, leaves, ih]
  | leaf p hallOf hshared =>
    cases p with
    | allOf members => exact absurd rfl (hallOf members)
    | shared q => exact absurd rfl (hshared q)
    | _ => rfl

/-- A question that each leaf answers of a reversed relationship as its reverse does is so answered
by the whole policy. -/
theorem judges_reversed {ask askReversed : RelationshipPolicy → Bool} (h : Judges ask)
    (hreversed : Judges askReversed) (hleaf : ∀ leaf, leaf.Native →
      askReversed leaf.reversed = ask leaf)
    {p : RelationshipPolicy} (native : ∀ leaf ∈ p.leaves, leaf.Native) :
    askReversed p.reversed = ask p := by
  have hp : ask p = p.leaves.all ask := h.eq_all_leaves p
  have hrev : askReversed p.reversed = p.reversed.leaves.all askReversed :=
    hreversed.eq_all_leaves p.reversed
  rw [hp, hrev, leaves_reversed, List.all_map, Bool.eq_iff_iff, List.all_eq_true, List.all_eq_true]
  exact forall₂_congr fun leaf hmem => by rw [Function.comp_apply, hleaf leaf (native leaf hmem)]

theorem Native.includes_reversed {leaf : RelationshipPolicy} (h : leaf.Native) (r : Relationship) :
    leaf.reversed.includes r.reversed = leaf.includes r := by
  cases h with
  | all => rfl
  | none => rfl
  | types names direction => rfl

theorem Native.includesFrom_reversed {leaf : RelationshipPolicy} (h : leaf.Native)
    (r : Relationship) (v : NodeId) :
    leaf.reversed.includesFrom r.reversed v = leaf.includesFrom r v := by
  cases h with
  | all => rfl
  | none => rfl
  | types names direction =>
    rw [reversed, includesFrom, includesFrom, seenFrom_reversed]
    rfl

/-- **Reversing a relationship and the directions of a policy changes no answer**, if the leaves are
those of the library.  To ask for both directions is to ask for one of them, and what is included in
each of them is a loop with a type that is asked for. -/
theorem directions_reverse_and_unite :
    (∀ p : RelationshipPolicy, (∀ leaf ∈ p.leaves, leaf.Native) → ∀ r : Relationship,
        p.reversed.includes r.reversed = p.includes r ∧
          ∀ v, p.reversed.includesFrom r.reversed v = p.includesFrom r v) ∧
      (∀ names r v, includesFrom (.types names .both) r v = true ↔
        includesFrom (.types names .outgoing) r v = true ∨
          includesFrom (.types names .incoming) r v = true) ∧
      ∀ names r v, (includesFrom (.types names .outgoing) r v = true ∧
          includesFrom (.types names .incoming) r v = true) ↔
        hasType names r = true ∧ r.LoopsAt v := by
  refine ⟨?reverse, ?unite, ?each⟩
  case reverse =>
    intro p native r
    have hplain := judges_reversed (judges_includes r) (judges_includes r.reversed)
      (fun leaf hleaf => hleaf.includes_reversed r) native
    have hfrom := fun v => judges_reversed (judges_includesFrom r v)
      (judges_includesFrom r.reversed v) (fun leaf hleaf => hleaf.includesFrom_reversed r v) native
    exact ⟨hplain, hfrom⟩
  case unite =>
    intro names r v
    simp only [includesFrom, Bool.and_eq_true, seenFrom_both_iff, and_or_left]
  case each =>
    intro names r v
    simp only [includesFrom, Bool.and_eq_true, ← and_and_left, seenFrom_each_iff]

theorem nestedPolicy_reversed :
    (∀ leaf ∈ nestedPolicy.leaves, leaf.Native) ∧
      nestedPolicy.includesFrom knows ⟨1⟩ = true ∧ nestedPolicy.includesFrom knows ⟨2⟩ = false ∧
      nestedPolicy.reversed.includesFrom knows.reversed ⟨1⟩ = true ∧
      nestedPolicy.reversed.includesFrom knows.reversed ⟨2⟩ = false := by
  have native : ∀ leaf ∈ nestedPolicy.leaves, leaf.Native := by
    simp only [nestedPolicy, leaves, leavesOfEach, List.append_nil, List.nil_append,
      List.cons_append, List.forall_mem_cons]
    exact ⟨.all, .types _ _, .all, by simp⟩
  have hsource : nestedPolicy.includesFrom knows ⟨1⟩ = true := by decide
  have htarget : nestedPolicy.includesFrom knows ⟨2⟩ = false := by decide
  have hreversed := (directions_reverse_and_unite.1 nestedPolicy native knows).2
  exact ⟨native, hsource, htarget, by rw [hreversed, hsource], by rw [hreversed, htarget]⟩

end RelationshipPolicy

end PropertyGraph
