import PropertyGraph.Policy.Node
import PropertyGraph.Policy.Relationship

/-!
# A composite policy is the conjunction of its leaves

Policies on nodes and on relationships are composed in two ways: a conjunction has any number of
members, and a shared pointer has the policy that it points to.  What stands below all of these are
the leaves.  A composite has no opinion of its own.  Each question that is put to it reaches the
leaves unchanged, the question from a point of view as well as the plain one, and the composite
agrees just if all leaves do.

So it does not matter how the leaves are grouped, in which order they stand, how often one of them
occurs and how many pointers lead to it; and a leaf that includes everything is never missed.

* `Judges.eq_all_leaves` — an answer is the conjunction of the answers of the leaves;
* `Rearranged.sameLeaves` — a rearranged composite has the same leaves, up to their order and
  repetition and to leaves that include everything;
* `Judges.eq_of_sameLeaves` — composites with the same leaves in this sense give the same answers;
* `composites_are_conjunctions` — all of this for both kinds of policies and both questions.
-/

namespace PropertyGraph

/-! ## Composition -/

/-- Kinds of policies that are composed by conjunctions and shared pointers.  Both kinds are trees,
so the same argument serves for both. -/
class Composed (π : Type) where
  all : π
  none : π
  allOf : List π → π
  shared : π → π
  leaves : π → List π
  leaves_allOf : ∀ members, leaves (allOf members) = members.flatMap leaves
  leaves_shared : ∀ p, leaves (shared p) = leaves p
  leaves_leaf : ∀ p, (∀ members, p ≠ allOf members) → (∀ q, p ≠ shared q) → leaves p = [p]
  leaves_all : leaves all = [all]
  induct : ∀ {motive : π → Prop},
    (∀ members, (∀ p ∈ members, motive p) → motive (allOf members)) →
    (∀ p, motive p → motive (shared p)) →
    (∀ p, (∀ members, p ≠ allOf members) → (∀ q, p ≠ shared q) → motive p) → ∀ p : π, motive p

namespace NodePolicy

mutual

/-- The policies below all conjunctions and shared pointers, from left to right. -/
def leaves : NodePolicy → List NodePolicy
  | .allOf members => leavesOfEach members
  | .shared policy => leaves policy
  | leaf => [leaf]

/-- The leaves of several policies. -/
def leavesOfEach : List NodePolicy → List NodePolicy
  | [] => []
  | p :: ps => leaves p ++ leavesOfEach ps

end

theorem leavesOfEach_eq_flatMap (ps : List NodePolicy) : leavesOfEach ps = ps.flatMap leaves := by
  induction ps with
  | nil => rfl
  | cons p ps ih => rw [leavesOfEach, ih, List.flatMap_cons]

theorem tree_induction {motive : NodePolicy → Prop}
    (conjunction : ∀ members, (∀ p ∈ members, motive p) → motive (.allOf members))
    (pointer : ∀ p, motive p → motive (.shared p))
    (leaf : ∀ p, (∀ members, p ≠ .allOf members) → (∀ q, p ≠ .shared q) → motive p) :
    ∀ p, motive p
  | .allOf members => conjunction members fun p _ => tree_induction conjunction pointer leaf p
  | .shared p => pointer p (tree_induction conjunction pointer leaf p)
  | .all => leaf _ nofun nofun
  | .none => leaf _ nofun nofun
  | .labels _ => leaf _ nofun nofun
  | .custom _ _ => leaf _ nofun nofun

instance : Composed NodePolicy where
  all := .all
  none := .none
  allOf := .allOf
  shared := .shared
  leaves := leaves
  leaves_allOf := leavesOfEach_eq_flatMap
  leaves_shared := fun _ => rfl
  leaves_leaf := by
    intro p hallOf hshared
    cases p with
    | allOf members => exact absurd rfl (hallOf members)
    | shared q => exact absurd rfl (hshared q)
    | _ => rfl
  leaves_all := rfl
  induct := tree_induction

end NodePolicy

namespace RelationshipPolicy

mutual

/-- The policies below all conjunctions and shared pointers, from left to right. -/
def leaves : RelationshipPolicy → List RelationshipPolicy
  | .allOf members => leavesOfEach members
  | .shared policy => leaves policy
  | leaf => [leaf]

/-- The leaves of several policies. -/
def leavesOfEach : List RelationshipPolicy → List RelationshipPolicy
  | [] => []
  | p :: ps => leaves p ++ leavesOfEach ps

end

theorem leavesOfEach_eq_flatMap (ps : List RelationshipPolicy) :
    leavesOfEach ps = ps.flatMap leaves := by
  induction ps with
  | nil => rfl
  | cons p ps ih => rw [leavesOfEach, ih, List.flatMap_cons]

theorem tree_induction {motive : RelationshipPolicy → Prop}
    (conjunction : ∀ members, (∀ p ∈ members, motive p) → motive (.allOf members))
    (pointer : ∀ p, motive p → motive (.shared p))
    (leaf : ∀ p, (∀ members, p ≠ .allOf members) → (∀ q, p ≠ .shared q) → motive p) :
    ∀ p, motive p
  | .allOf members => conjunction members fun p _ => tree_induction conjunction pointer leaf p
  | .shared p => pointer p (tree_induction conjunction pointer leaf p)
  | .all => leaf _ nofun nofun
  | .none => leaf _ nofun nofun
  | .types _ _ => leaf _ nofun nofun
  | .custom _ _ => leaf _ nofun nofun
  | .customFrom _ _ _ => leaf _ nofun nofun

instance : Composed RelationshipPolicy where
  all := .all
  none := .none
  allOf := .allOf
  shared := .shared
  leaves := leaves
  leaves_allOf := leavesOfEach_eq_flatMap
  leaves_shared := fun _ => rfl
  leaves_leaf := by
    intro p hallOf hshared
    cases p with
    | allOf members => exact absurd rfl (hallOf members)
    | shared q => exact absurd rfl (hshared q)
    | _ => rfl
  leaves_all := rfl
  induct := tree_induction

end RelationshipPolicy

namespace Composed

variable {π : Type} [Composed π]

/-- Induction on a composite, with a name for each case. -/
theorem composite_induction {motive : π → Prop}
    (conjunction : ∀ members, (∀ p ∈ members, motive p) → motive (allOf members))
    (pointer : ∀ p, motive p → motive (shared p))
    (leaf : ∀ p, (∀ members, p ≠ allOf members) → (∀ q, p ≠ shared q) → motive p) (p : π) :
    motive p :=
  induct conjunction pointer leaf p

/-- A policy that is neither a conjunction nor a shared pointer. -/
def IsLeaf (p : π) : Prop := (∀ members, p ≠ allOf members) ∧ ∀ q, p ≠ shared q

theorem mem_leaves_allOf {members : List π} {leaf : π} :
    leaf ∈ leaves (allOf members) ↔ ∃ p ∈ members, leaf ∈ leaves p := by
  rw [leaves_allOf, List.mem_flatMap]

theorem isLeaf_of_mem_leaves {p leaf : π} (h : leaf ∈ leaves p) : IsLeaf leaf := by
  induction p using composite_induction with
  | conjunction members ih =>
    obtain ⟨p, hp, hleaf⟩ := mem_leaves_allOf.1 h
    exact ih p hp hleaf
  | pointer p ih =>
    rw [leaves_shared] at h
    exact ih h
  | leaf p hallOf hshared =>
    rw [leaves_leaf p hallOf hshared, List.mem_singleton] at h
    rw [h]
    exact ⟨hallOf, hshared⟩

end Composed

open Composed

section Judgement

variable {π : Type} [Composed π]

/-! ## Questions to a composite -/

/-- A question to policies that conjunctions put to their members and shared pointers pass on. -/
structure Judges (ask : π → Bool) : Prop where
  all : ask Composed.all = true
  none : ask Composed.none = false
  allOf : ∀ members, ask (allOf members) = members.all ask
  shared : ∀ p, ask (shared p) = ask p

/-- **The answer of a policy is the conjunction of the answers of its leaves.** -/
theorem Judges.eq_all_leaves {ask : π → Bool} (h : Judges ask) (p : π) :
    ask p = (leaves p).all ask := by
  induction p using composite_induction with
  | conjunction members ih =>
    rw [h.allOf, leaves_allOf, List.all_flatMap, Bool.eq_iff_iff, List.all_eq_true,
      List.all_eq_true]
    constructor
    · intro hmembers p hp
      rw [← ih p hp]
      exact hmembers p hp
    · intro hleaves p hp
      rw [ih p hp]
      exact hleaves p hp
  | pointer p ih => rw [h.shared, leaves_shared, ih]
  | leaf p hallOf hshared =>
    rw [leaves_leaf p hallOf hshared, List.all_cons, List.all_nil, Bool.and_true]

/-- A leaf that includes nothing decides. -/
theorem Judges.eq_false_of_none_mem {ask : π → Bool} (h : Judges ask) {p : π}
    (hnone : Composed.none ∈ leaves p) : ask p = false := by
  rw [h.eq_all_leaves, List.all_eq_false]
  exact ⟨Composed.none, hnone, by simp [h.none]⟩

/-- The same leaves, up to their order and repetition and to leaves that include everything. -/
def SameLeaves (p q : π) : Prop :=
  ∀ leaf, leaf ≠ Composed.all → (leaf ∈ leaves p ↔ leaf ∈ leaves q)

/-- **Composites with the same leaves give the same answers.** -/
theorem Judges.eq_of_sameLeaves {ask : π → Bool} (h : Judges ask) {p q : π}
    (hsame : SameLeaves p q) : ask p = ask q := by
  have hle : ∀ {p q : π}, SameLeaves p q → ask p = true → ask q = true := by
    intro p q hsame hp
    rw [h.eq_all_leaves, List.all_eq_true] at hp ⊢
    intro leaf hleaf
    by_cases hall : leaf = Composed.all
    · rw [hall, h.all]
    · exact hp leaf ((hsame leaf hall).2 hleaf)
  rw [Bool.eq_iff_iff]
  exact ⟨hle hsame, hle fun leaf hleaf => (hsame leaf hleaf).symm⟩

/-! ## Rearranged composites -/

/-- Composites that come from each other by steps which should not matter, anywhere in the tree. -/
inductive Rearranged : π → π → Prop
  | refl (p : π) : Rearranged p p
  | symm {p q : π} : Rearranged p q → Rearranged q p
  | trans {p q r : π} : Rearranged p q → Rearranged q r → Rearranged p r
  /-- a step inside one member of a conjunction -/
  | member {p q : π} (before after : List π) : Rearranged p q →
      Rearranged (allOf (before ++ p :: after)) (allOf (before ++ q :: after))
  /-- a step behind a shared pointer -/
  | pointee {p q : π} : Rearranged p q → Rearranged (shared p) (shared q)
  /-- the members of a nested conjunction in place of it -/
  | flatten (before members after : List π) :
      Rearranged (allOf (before ++ allOf members :: after)) (allOf (before ++ (members ++ after)))
  | permute {members others : List π} : members.Perm others →
      Rearranged (allOf members) (allOf others)
  /-- a member once more -/
  | again {p : π} {members : List π} : p ∈ members →
      Rearranged (allOf members) (allOf (p :: members))
  /-- one more shared pointer -/
  | wrap (p : π) : Rearranged p (shared p)
  | dropAll (members : List π) : Rearranged (allOf (Composed.all :: members)) (allOf members)
  | dropEmpty (members : List π) : Rearranged (allOf (allOf [] :: members)) (allOf members)

instance : Trans (@Rearranged π _) Rearranged Rearranged := ⟨.trans⟩

/-- **A rearranged composite has the same leaves.** -/
theorem Rearranged.sameLeaves {p q : π} (h : Rearranged p q) : SameLeaves p q := by
  induction h with
  | refl p => exact fun _ _ => Iff.rfl
  | symm _ ih => exact fun leaf hleaf => (ih leaf hleaf).symm
  | trans _ _ ihp ihq => exact fun leaf hleaf => (ihp leaf hleaf).trans (ihq leaf hleaf)
  | member before after _ ih =>
    intro leaf hleaf
    simp [leaves_allOf, ih leaf hleaf]
  | pointee _ ih =>
    intro leaf hleaf
    rw [leaves_shared, leaves_shared]
    exact ih leaf hleaf
  | flatten before members after => simp [SameLeaves, leaves_allOf]
  | permute hperm =>
    intro leaf _
    simp only [mem_leaves_allOf, hperm.mem_iff]
  | @again p members hmem =>
    intro leaf _
    simp only [mem_leaves_allOf, List.mem_cons, exists_eq_or_imp]
    exact ⟨Or.inr, fun h => h.elim (fun hleaf => ⟨p, hmem, hleaf⟩) id⟩
  | wrap p => exact fun _ _ => by rw [leaves_shared]
  | dropAll members =>
    intro leaf hleaf
    simp [leaves_allOf, leaves_all, hleaf]
  | dropEmpty members => simp [SameLeaves, leaves_allOf]

end Judgement

/-! ## The questions of the library -/

theorem NodePolicy.judges_includes (n : Node) :
    Judges fun p : NodePolicy => p.includes n where
  all := rfl
  none := rfl
  allOf := fun members => includesEvery_eq_all members n
  shared := fun _ => rfl

theorem RelationshipPolicy.judges_includes (r : Relationship) :
    Judges fun p : RelationshipPolicy => p.includes r where
  all := rfl
  none := rfl
  allOf := fun members => includesEvery_eq_all members r
  shared := fun _ => rfl

theorem RelationshipPolicy.judges_includesFrom (r : Relationship) (pointOfView : NodeId) :
    Judges fun p : RelationshipPolicy => p.includesFrom r pointOfView where
  all := rfl
  none := rfl
  allOf := fun members => includesEveryFrom_eq_all members r pointOfView
  shared := fun _ => rfl

/-- **Composite policies are the conjunctions of their leaves**, and from a point of view they are
the conjunctions of what the leaves answer from there.  Hence a composite may be rearranged, and one
leaf that includes nothing makes the whole include nothing. -/
theorem composites_are_conjunctions :
    (∀ p : NodePolicy, (∀ leaf ∈ p.leaves, IsLeaf leaf) ∧
        ∀ n, p.includes n = p.leaves.all fun leaf => leaf.includes n) ∧
      (∀ p : RelationshipPolicy, (∀ leaf ∈ p.leaves, IsLeaf leaf) ∧
        (∀ r, p.includes r = p.leaves.all fun leaf => leaf.includes r) ∧
        ∀ r v, p.includesFrom r v = p.leaves.all fun leaf => leaf.includesFrom r v) ∧
      (∀ p q : NodePolicy, Rearranged p q → ∀ n, p.includes n = q.includes n) ∧
      (∀ p q : RelationshipPolicy, Rearranged p q →
        (∀ r, p.includes r = q.includes r) ∧ ∀ r v, p.includesFrom r v = q.includesFrom r v) ∧
      (∀ p : NodePolicy, .none ∈ p.leaves → ∀ n, p.includes n = false) ∧
      ∀ p : RelationshipPolicy, .none ∈ p.leaves →
        (∀ r, p.includes r = false) ∧ ∀ r v, p.includesFrom r v = false := by
  refine ⟨fun p => ⟨?_, ?_⟩, fun p => ⟨?_, ?_, ?_⟩, fun p q h n => ?_, fun p q h => ⟨?_, ?_⟩,
    fun p h n => ?_, fun p h => ⟨?_, ?_⟩⟩
  · exact fun _ => isLeaf_of_mem_leaves
  · exact fun n => (NodePolicy.judges_includes n).eq_all_leaves p
  · exact fun _ => isLeaf_of_mem_leaves
  · exact fun r => (RelationshipPolicy.judges_includes r).eq_all_leaves p
  · exact fun r v => (RelationshipPolicy.judges_includesFrom r v).eq_all_leaves p
  · exact (NodePolicy.judges_includes n).eq_of_sameLeaves h.sameLeaves
  · exact fun r => (RelationshipPolicy.judges_includes r).eq_of_sameLeaves h.sameLeaves
  · exact fun r v => (RelationshipPolicy.judges_includesFrom r v).eq_of_sameLeaves h.sameLeaves
  · exact (NodePolicy.judges_includes n).eq_false_of_none_mem h
  · exact fun r => (RelationshipPolicy.judges_includes r).eq_false_of_none_mem h
  · exact fun r v => (RelationshipPolicy.judges_includesFrom r v).eq_false_of_none_mem h

/-- One policy with a direction, deep in a composite. -/
def nestedPolicy : RelationshipPolicy :=
  .allOf [.all, .shared (.allOf [.types .empty .outgoing, .allOf []]), .shared (.shared .all)]

/-- The same policy alone. -/
def flatPolicy : RelationshipPolicy := .allOf [.types .empty .outgoing]

theorem rearranged_nestedPolicy : Rearranged nestedPolicy flatPolicy := by
  let directed : RelationshipPolicy := .types .empty .outgoing
  let pointer : RelationshipPolicy := .shared (.shared .all)
  let inner : RelationshipPolicy := .allOf [directed, .allOf []]
  have hpointer : Rearranged pointer .all := ((Rearranged.wrap _).trans (.wrap _)).symm
  have hinner : Rearranged (RelationshipPolicy.shared inner) inner := (Rearranged.wrap _).symm
  calc nestedPolicy
    Rearranged _ (RelationshipPolicy.allOf [.shared inner, pointer]) := .dropAll _
    Rearranged _ (RelationshipPolicy.allOf [inner, pointer]) := .member [] [pointer] hinner
    Rearranged _ (RelationshipPolicy.allOf [directed, .allOf [], pointer]) :=
      .flatten [] [directed, .allOf []] [pointer]
    Rearranged _ (RelationshipPolicy.allOf [.allOf [], directed, pointer]) :=
      .permute (.swap _ _ _)
    Rearranged _ (RelationshipPolicy.allOf [directed, pointer]) := .dropEmpty _
    Rearranged _ (RelationshipPolicy.allOf [directed, .all]) := .member [directed] [] hpointer
    Rearranged _ (RelationshipPolicy.allOf [.all, directed]) := .permute (.swap _ _ _)
    Rearranged _ flatPolicy := .dropAll _

/-- A relationship that leads from one node to another. -/
def knows : Relationship := ⟨⟨1⟩, ⟨1⟩, ⟨2⟩, "KNOWS", .empty⟩

theorem nestedPolicy_from_both_ends :
    Rearranged nestedPolicy flatPolicy ∧
      nestedPolicy.includes knows = flatPolicy.includes knows ∧ flatPolicy.includes knows = true ∧
      nestedPolicy.includesFrom knows ⟨1⟩ = true ∧ nestedPolicy.includesFrom knows ⟨2⟩ = false ∧
      .none ∈ (RelationshipPolicy.allOf [nestedPolicy, .shared .none]).leaves ∧
      (RelationshipPolicy.allOf [nestedPolicy, .shared .none]).includesFrom knows ⟨1⟩ = false := by
  obtain ⟨-, -, -, hrearranged, -, hnone⟩ := composites_are_conjunctions
  obtain ⟨hplain, hfrom⟩ := hrearranged _ _ rearranged_nestedPolicy
  have hmem : .none ∈ (RelationshipPolicy.allOf [nestedPolicy, .shared .none]).leaves := by
    simp [RelationshipPolicy.leaves, RelationshipPolicy.leavesOfEach]
  refine ⟨rearranged_nestedPolicy, hplain knows, by decide, ?_, ?_, hmem, (hnone _ hmem).2 _ _⟩
  · rw [hfrom]
    decide
  · rw [hfrom]
    decide

end PropertyGraph
